import Mathlib.Data.List.DropRight
import Bottlecap.Foundations.HeaderText
import Bottlecap.Foundations.Json
import Bottlecap.Foundations.Text

namespace Bottlecap
namespace Secrets

open Foundations

/-!
# Resolving the API key

`resolve_secrets` of `secrets/decrypt.rs` takes the API key from the source that
is configured, delegated authentication before KMS, Secrets Manager and the
Parameter Store, or from the configuration itself, and cleans it.  The log and proxy
flushers later parse the key as a header value and panic if it is none.

What AWS and Datadog answer is a parameter: a JSON value, or none if the request
could not be signed or sent or the answer is not JSON.  A panic is an `Except.error`,
an error of the source is none.
-/

/-- The configuration the key is resolved from. -/
structure SecretsConfig where
  apiKey : String
  apiKeySecretArn : String
  kmsApiKey : String
  apiKeySsmArn : String
  ddOrgUuid : String
  region : String
  functionName : String

structure AwsCredentials where
  awsAccessKeyId : String
  awsSecretAccessKey : String
  awsSessionToken : String
  awsContainerCredentialsFullUri : String
  awsContainerAuthorizationToken : String

/-- A request to an AWS service. -/
structure SecretRequest where
  service : String
  region : String
  body : Value
  xAmzTarget : String

/-- What resolving a key meets outside. -/
structure SecretsEnv where
  directAwsClient : Bool
  credentialsFromEnv : AwsCredentials
  snapstartCredentials : Option Value
  request : AwsCredentials -> SecretRequest -> Option Value
  delegatedAnswer : AwsCredentials -> Option Value
  base64ToUtf8 : String -> Option String
  jsonFromStr : String -> Option Value

/-- `Index` of a `Map` with a key that is absent. -/
structure MapIndexPanic where
  key : String
  deriving DecidableEq

/-- `v[key]` at a `Value` -/
def indexValue (value : Value) (key : String) : Value := (value.get key).getD .null

/-- `map[key]` at a `Map` -/
def indexMap (members : List (String × Value)) (key : String) : Except MapIndexPanic Value :=
  match (Value.object members).get key with
  | some value => Except.ok value
  | none => Except.error ⟨key⟩

def getAwsCredentials (env : SecretsEnv) : Option AwsCredentials :=
  let credentials := env.credentialsFromEnv
  if credentials.awsSecretAccessKey.isEmpty && credentials.awsAccessKeyId.isEmpty &&
      !credentials.awsContainerCredentialsFullUri.isEmpty &&
      !credentials.awsContainerAuthorizationToken.isEmpty then
    env.snapstartCredentials.map (fun answer =>
      { credentials with
        awsAccessKeyId := ((indexValue answer "AccessKeyId").asStr).getD ""
        awsSecretAccessKey := ((indexValue answer "SecretAccessKey").asStr).getD ""
        awsSessionToken := ((indexValue answer "Token").asStr).getD "" })
  else some credentials

section Sources

variable (env : SecretsEnv) (config : SecretsConfig) (credentials : AwsCredentials)

def getDelegatedApiKey : Option String :=
  if credentials.awsAccessKeyId.isEmpty || credentials.awsSecretAccessKey.isEmpty then none
  else
    (env.delegatedAnswer credentials).bind (fun parsed =>
      let apiKey := ((indexValue (indexValue (indexValue parsed "data") "attributes")
        "api_key").asStr).getD ""
      if apiKey.isEmpty then none else some apiKey)

def kmsRequest (body : Value) : SecretRequest where
  service := "kms"
  region := config.region
  body := body
  xAmzTarget := "TrentService.Decrypt"

/-- Without the encryption context, and with it if that answer has no plain
text. -/
def decryptAwsKms : Option String := do
  let answer <- env.request credentials (kmsRequest config
    (.object [("CiphertextBlob", .string config.kmsApiKey)]))
  match (indexValue answer "Plaintext").asStr with
  | some text => env.base64ToUtf8 text
  | none =>
    let answer <- env.request credentials (kmsRequest config
      (.object [("CiphertextBlob", .string config.kmsApiKey),
        ("encryptionContext", .object
          [("LambdaFunctionName", .string config.functionName)])]))
    match (indexValue answer "Plaintext").asStr with
    | some text => env.base64ToUtf8 text
    | none => none

/-- The region in an ARN, or that of the function. -/
def arnRegion (arn : String) : String :=
  (((splitAtChar ':' arn.toList)[3]?).map String.ofList).getD config.region

def extractSecretString (answer : Value) : Option String :=
  match (indexValue answer "SecretString").asStr with
  | none => none
  | some secret =>
    match env.jsonFromStr secret with
    | none => some secret
    | some parsed =>
      some ((((indexValue parsed "dd_api_key").asStr).or
        (indexValue parsed "apiKey").asStr).getD secret)

def decryptAwsSm : Option String :=
  (env.request credentials
    { service := "secretsmanager"
      region := arnRegion config config.apiKeySecretArn
      body := .object [("SecretId", .string config.apiKeySecretArn)]
      xAmzTarget := "secretsmanager.GetSecretValue" }).bind (extractSecretString env)

def getParameter : Option Value :=
  env.request credentials
    { service := "ssm"
      region := arnRegion config config.apiKeySsmArn
      body := .object [("Name", .string config.apiKeySsmArn),
        ("WithDecryption", .bool true)]
      xAmzTarget := "AmazonSSM.GetParameter" }

def decryptAwsSsm : Except MapIndexPanic (Option String) :=
  match getParameter env config credentials with
  | none => Except.ok none
  | some answer =>
    match (indexValue answer "Parameter").asObject with
    | none => Except.ok none
    -- the parameter is a `Map`: indexing it panics where a `Value` gives null
    | some parameter => (indexMap parameter "Value").map Value.asStr

end Sources

/-- `clean_api_key` -/
def cleanApiKey (maybeKey : Option String) : Option String :=
  maybeKey.bind (fun key =>
    let trimmed := key.toList.rdropWhile (fun char => char == '\n')
    let cleanKey := String.ofList (trimmed.filter (fun char => char != ' '))
    if cleanKey.isEmpty then none else some cleanKey)

def SecretsConfig.hasSecret (config : SecretsConfig) : Bool :=
  !config.apiKeySecretArn.isEmpty || !config.kmsApiKey.isEmpty || !config.apiKeySsmArn.isEmpty ||
    !config.ddOrgUuid.isEmpty

def decryptedKey (env : SecretsEnv) (config : SecretsConfig) (credentials : AwsCredentials) :
    Except MapIndexPanic (Option String) :=
  if !config.ddOrgUuid.isEmpty then Except.ok (getDelegatedApiKey env credentials)
  else if !config.kmsApiKey.isEmpty then Except.ok (decryptAwsKms env config credentials)
  else if !config.apiKeySecretArn.isEmpty then Except.ok (decryptAwsSm env config credentials)
  else decryptAwsSsm env config credentials

/-- `resolve_secrets` -/
def resolveSecrets (env : SecretsEnv) (config : SecretsConfig) :
    Except MapIndexPanic (Option String) :=
  if config.hasSecret then
    if !env.directAwsClient then Except.ok none
    else
      match getAwsCredentials env with
      | none => Except.ok none
      | some credentials => (decryptedKey env config credentials).map cleanApiKey
  else Except.ok (cleanApiKey (some config.apiKey))

/-! ## The headers of the flushers -/

/-- The header that did not parse. -/
structure FlusherPanic where
  header : String

def expectHeader (chars : HeaderChars) (header text : String) :
    Except FlusherPanic (String × String) :=
  if chars.legal text then Except.ok (header, text) else Except.error ⟨header⟩

/-- The configuration of the log flusher that its headers depend on. -/
structure LogsHeadersConfig where
  observabilityPipelinesWorkerLogsEnabled : Bool
  logsConfigUseCompression : Bool

/-- `get_headers` of `logs/flusher.rs`, on its first call. -/
def logsHeaders (chars : HeaderChars) (config : LogsHeadersConfig) (apiKey : String) :
    Except FlusherPanic (List (String × String)) := do
  let apiKeyHeader <- expectHeader chars "DD-API-KEY" apiKey
  let protocol <-
    if !config.observabilityPipelinesWorkerLogsEnabled then
      (expectHeader chars "DD-PROTOCOL" "agent-json").map (fun header => [header])
    else Except.ok []
  let contentType <- expectHeader chars "Content-Type" "application/json"
  let encoding <-
    if config.logsConfigUseCompression && !config.observabilityPipelinesWorkerLogsEnabled then
      (expectHeader chars "Content-Encoding" "zstd").map (fun header => [header])
    else Except.ok []
  Except.ok (apiKeyHeader :: protocol ++ contentType :: encoding)

/-- `get_headers` of `traces/proxy_flusher.rs`, on its first call. -/
def proxyHeaders (chars : HeaderChars) (canonicalResourceName : Option String) (apiKey : String) :
    Except FlusherPanic (List (String × String)) := do
  let apiKeyHeader <- expectHeader chars "DD-API-KEY" apiKey
  let tags <- expectHeader chars "X-Datadog-Additional-Tags"
    ("_dd.origin:lambda;functionname:" ++ canonicalResourceName.getD "")
  Except.ok [apiKeyHeader, tags]

/-! ## Keys that can be sent -/

def IsVisible (char : Char) : Prop := 32 <= char.toNat ∧ char.toNat <= 126

instance (char : Char) : Decidable (IsVisible char) := inferInstanceAs (Decidable (_ ∧ _))

/-- A key that every flusher can put in its header. -/
structure Usable (key : String) : Prop where
  nonempty : key ≠ ""
  visible : forall char, char ∈ key.toList -> IsVisible char
  logs : forall chars config, logsHeaders chars config key ≠ Except.error ⟨"DD-API-KEY"⟩
  proxy : forall chars name, proxyHeaders chars name key ≠ Except.error ⟨"DD-API-KEY"⟩

/-- Resolving does not panic, and a key it returns is usable. -/
def ResolvesUsably (env : SecretsEnv) (config : SecretsConfig) : Prop :=
  Exists fun result => resolveSecrets env config = Except.ok result ∧
    forall key, result = some key -> Usable key

theorem expectHeader_of_legal {chars : HeaderChars} {text : String} (header : String)
    (legal : chars.legal text = true) : expectHeader chars header text = Except.ok (header, text) :=
  if_pos legal

/-- A flusher parses its key first, so with a legal key it cannot fail over it. -/
theorem logsHeaders_ne_error {chars : HeaderChars} {key : String} (config : LogsHeadersConfig)
    (legal : chars.legal key = true) : logsHeaders chars config key ≠ Except.error ⟨"DD-API-KEY"⟩ := by
  have json : chars.legal "agent-json" = true := chars.legal_of_literal _ (by decide)
  have application : chars.legal "application/json" = true := chars.legal_of_literal _ (by decide)
  have zstd : chars.legal "zstd" = true := chars.legal_of_literal _ (by decide)
  obtain ⟨worker, compression⟩ := config
  rw [logsHeaders]
  rw [expectHeader_of_legal _ legal, expectHeader_of_legal _ json,
    expectHeader_of_legal _ application, expectHeader_of_legal _ zstd]
  cases worker <;> cases compression <;> exact nofun

theorem proxyHeaders_ne_error {chars : HeaderChars} {key : String} (name : Option String)
    (legal : chars.legal key = true) : proxyHeaders chars name key ≠ Except.error ⟨"DD-API-KEY"⟩ := by
  rw [proxyHeaders]
  rw [expectHeader_of_legal _ legal]
  by_cases tags : chars.legal ("_dd.origin:lambda;functionname:" ++ name.getD "") = true
  · rw [expectHeader_of_legal _ tags]
    exact nofun
  · rw [expectHeader, if_neg tags]
    intro failed
    have header : "X-Datadog-Additional-Tags" = "DD-API-KEY" :=
      congrArg FlusherPanic.header (Except.error.inj failed)
    exact absurd header (by decide)

theorem usable_iff (key : String) :
    Usable key <-> key ≠ "" ∧ forall char, char ∈ key.toList -> IsVisible char := by
  constructor
  · intro usable
    exact ⟨usable.nonempty, usable.visible⟩
  · rintro ⟨nonempty, visible⟩
    have legal : forall chars : HeaderChars, chars.legal key = true :=
      fun chars => chars.legal_of_visible key visible
    exact ⟨nonempty, visible, fun chars config => logsHeaders_ne_error config (legal chars),
      fun chars name => proxyHeaders_ne_error name (legal chars)⟩

/-! ## Cleaning -/

/-- The text before the line feeds at its end. -/
def beforeLineFeeds (text : String) : List Char :=
  text.toList.rdropWhile (fun char => char == '\n')

/-- Spaces are visible, so removing them changes nothing. -/
theorem visible_withoutSpaces_iff (chars : List Char) :
    (forall char, char ∈ chars.filter (fun char => char != ' ') -> IsVisible char) <->
      forall char, char ∈ chars -> IsVisible char := by
  have space : IsVisible ' ' := by decide
  constructor
  · intro visible char member
    by_cases blank : char = ' '
    · rw [blank]
      exact space
    · apply visible
      rw [List.mem_filter]
      exact ⟨member, bne_iff_ne.mpr blank⟩
  · intro visible char member
    exact visible char (List.mem_filter.mp member).1

theorem usable_ofList_iff {kept : List Char} (nonempty : kept ≠ []) :
    Usable (String.ofList kept) <-> forall char, char ∈ kept -> IsVisible char := by
  rw [usable_iff, String.toList_ofList]
  apply and_iff_right
  intro equal
  rw [String.ofList_inj] at equal
  exact nonempty equal

/-- Cleaning keeps all characters but spaces and the line feeds at the end, so a
usable key comes only from a text that is visible up to those. -/
theorem usable_cleanApiKey_iff (text : String) :
    (forall key, cleanApiKey (some text) = some key -> Usable key) <->
      forall char, char ∈ beforeLineFeeds text -> IsVisible char := by
  rw [<- visible_withoutSpaces_iff]
  have cleaned : cleanApiKey (some text) =
      if (String.ofList ((beforeLineFeeds text).filter (fun char => char != ' '))).isEmpty then none
      else some (String.ofList ((beforeLineFeeds text).filter (fun char => char != ' '))) := by
    rw [cleanApiKey, Option.bind_some, beforeLineFeeds]
  rw [cleaned]
  generalize (beforeLineFeeds text).filter (fun char => char != ' ') = kept
  by_cases empty : kept = []
  · subst empty
    exact iff_of_true (fun key none => nomatch none) (fun char member => nomatch member)
  · have nonempty : Not ((String.ofList kept).isEmpty = true) := by
      rw [String.isEmpty_iff, String.ofList_inj]
      exact empty
    rw [if_neg nonempty, <- usable_ofList_iff empty]
    constructor
    · intro usable
      exact usable _ rfl
    · intro usable key same
      obtain rfl := Option.some.inj same
      exact usable

/-! ## The source of the key -/

section Resolving

variable (env : SecretsEnv) (config : SecretsConfig)

/-- The text of the parameter in the answer of the Parameter Store. -/
def parameterText (credentials : AwsCredentials) : Option String :=
  (getParameter env config credentials).bind (fun answer =>
    ((indexValue answer "Parameter").asObject).bind (fun parameter =>
      ((Value.object parameter).get "Value").bind Value.asStr))

/-- The text that the configured source holds for the key. -/
def sourceText : Option String :=
  if config.hasSecret then
    if !env.directAwsClient then none
    else
      (getAwsCredentials env).bind (fun credentials =>
        if !config.ddOrgUuid.isEmpty then getDelegatedApiKey env credentials
        else if !config.kmsApiKey.isEmpty then decryptAwsKms env config credentials
        else if !config.apiKeySecretArn.isEmpty then decryptAwsSm env config credentials
        else parameterText env config credentials)
  else some config.apiKey

/-- The key is asked from the Parameter Store, which answers with a parameter
that has no value. -/
def parameterLacksValue : Bool :=
  config.hasSecret && env.directAwsClient && (getAwsCredentials env).any (fun credentials =>
    config.ddOrgUuid.isEmpty && config.kmsApiKey.isEmpty && config.apiKeySecretArn.isEmpty &&
      (getParameter env config credentials).any (fun answer =>
        ((indexValue answer "Parameter").asObject).any (fun parameter =>
          ((Value.object parameter).get "Value").isNone)))

theorem decryptAwsSsm_eq (credentials : AwsCredentials) :
    decryptAwsSsm env config credentials =
      if (getParameter env config credentials).any (fun answer =>
          ((indexValue answer "Parameter").asObject).any (fun parameter =>
            ((Value.object parameter).get "Value").isNone)) then Except.error ⟨"Value"⟩
      else Except.ok (parameterText env config credentials) := by
  rw [decryptAwsSsm, parameterText]
  cases getParameter env config credentials with
  | none => rfl
  | some answer =>
    simp only [Option.any_some, Option.bind_some]
    cases (indexValue answer "Parameter").asObject with
    | none => rfl
    | some parameter =>
      simp only [Option.any_some, Option.bind_some, indexMap]
      cases (Value.object parameter).get "Value" <;> rfl

/-- Resolving panics over a parameter without a value, and otherwise cleans the
text of the source. -/
theorem resolveSecrets_eq :
    resolveSecrets env config =
      if parameterLacksValue env config then Except.error ⟨"Value"⟩
      else Except.ok (cleanApiKey (sourceText env config)) := by
  unfold resolveSecrets parameterLacksValue sourceText decryptedKey
  cases config.hasSecret with
  | false => rfl
  | true =>
    cases env.directAwsClient with
    | false => rfl
    | true =>
      cases getAwsCredentials env with
      | none => rfl
      | some =>
        simp only [Option.any_some, if_true, decryptAwsSsm_eq]
        cases config.ddOrgUuid.isEmpty with
        | false => rfl
        | true =>
          cases config.kmsApiKey.isEmpty with
          | false => rfl
          | true =>
            cases config.apiKeySecretArn.isEmpty with
            | false => rfl
            | true =>
              simp only [Bool.not_true, Bool.true_and, Bool.false_eq_true, if_false]
              split <;> rfl

/-- The API key resolves without a panic, to a key that the flushers can send if
to any, exactly if a parameter of the Parameter Store has a value and the text of
the source is visible ASCII up to the line feeds at its end. -/
theorem resolve_secrets_usable_iff :
    ResolvesUsably env config <->
      parameterLacksValue env config = false ∧
        forall text, sourceText env config = some text ->
          forall char, char ∈ beforeLineFeeds text -> IsVisible char := by
  rw [ResolvesUsably, resolveSecrets_eq]
  cases parameterLacksValue env config with
  | true => exact iff_of_false (fun resolved => nomatch resolved.choose_spec.1) (nomatch ·.1)
  | false =>
    cases sourceText env config with
    | none =>
      refine iff_of_true ⟨none, rfl, ?_⟩ ⟨rfl, ?_⟩
      · exact fun key impossible => nomatch impossible
      · exact fun text impossible => nomatch impossible
    | some text =>
      have usable := usable_cleanApiKey_iff text
      constructor
      · rintro ⟨result, resolved, all⟩
        obtain rfl := Except.ok.inj resolved
        refine ⟨rfl, ?_⟩
        intro other same
        obtain rfl := Option.some.inj same
        exact usable.mp all
      · rintro ⟨_, visible⟩
        exact ⟨_, rfl, usable.mpr (visible text rfl)⟩

end Resolving

/-- A key in the configuration, and no secrets. -/
def SecretsConfig.plain (apiKey : String) : SecretsConfig :=
  ⟨apiKey, "", "", "", "", "us-east-1", "function"⟩

/-- A key that was pasted with a Windows line ending: the carriage return stays. -/
theorem carriage_return_kept :
    ¬ forall (env : SecretsEnv) (config : SecretsConfig), ResolvesUsably env config := by
  intro always
  have usable := always
    ⟨true, ⟨"", "", "", "", ""⟩, none, fun _ _ => none, fun _ => none, fun _ => none, fun _ => none⟩
    (SecretsConfig.plain "0123abcd\r\n")
  obtain ⟨result, resolved, keys⟩ := usable
  have same : result = some "0123abcd\r" := by
    have computed : Except.ok (some "0123abcd\r") =
        (Except.ok result : Except MapIndexPanic (Option String)) := by
      rw [<- resolved]
      decide
    exact (Except.ok.inj computed).symm
  have visible := (keys "0123abcd\r" same).visible '\r' (by decide)
  exact absurd visible (by decide)

end Secrets
end Bottlecap
