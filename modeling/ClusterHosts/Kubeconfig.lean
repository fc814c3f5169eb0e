import ClusterHosts.Api.Address
import ClusterHosts.Api.Http
import ClusterHosts.Api.Listing
import ClusterHosts.Certificate
import ClusterHosts.Files
import ClusterHosts.Settings
import ClusterHosts.Text.Encoding
import ClusterHosts.Timestamp
import ClusterHosts.Yaml.Data

/-! # Kubeconfig files

A kubeconfig file names clusters, users and contexts; a context is a cluster with perhaps a user. Of
several entries with one name the first counts. Several documents in one file are taken together,
the first of them before the others.
-/

namespace ClusterHosts

/-- An entry of a list of named things, which may have a name only. -/
structure Named (α : Type) where
  name : String
  body : Option α
  deriving DecidableEq, Inhabited

/-- The body of the first entry with a name. -/
def Named.find? {α : Type} (entries : List (Named α)) (name : String) : Option α :=
  (entries.find? fun entry => entry.name == name).bind Named.body

/-- How a cluster is reached. -/
structure ClusterEntry where
  server : Option String := none
  authorityPath : Option String := none
  authorityData : Option String := none
  proxyUrl : Option String := none
  /-- The name that the server's certificate is for, if it is not in the address. -/
  serverName : Option String := none
  deriving DecidableEq, Inhabited

/-- A service that gives tokens to users, with what it is told. -/
structure TokenService where
  name : String
  settings : List (String × String) := []
  deriving DecidableEq, Inhabited

/-- How a user makes itself known. -/
structure UserEntry where
  token : Option String := none
  tokenPath : Option String := none
  username : Option String := none
  password : Option String := none
  certificatePath : Option String := none
  certificateData : Option String := none
  keyPath : Option String := none
  keyData : Option String := none
  /-- The other user that it acts as. -/
  actsAs : Option String := none
  /-- The groups that it acts as a member of. -/
  actsInGroups : List String := []
  tokenService : Option TokenService := none
  /-- Whether a program finds out who the user is. -/
  hasProgram : Bool := false
  deriving DecidableEq, Inhabited

/-- A cluster with the user that reaches it. -/
structure ContextEntry where
  cluster : String
  user : Option String := none
  deriving DecidableEq, Inhabited

/-- What a kubeconfig file says. -/
structure Kubeconfig where
  kind : Option String := none
  apiVersion : Option String := none
  clusters : List (Named ClusterEntry) := []
  users : List (Named UserEntry) := []
  contexts : List (Named ContextEntry) := []
  currentContext : Option String := none
  deriving DecidableEq, Inhabited

namespace Kubeconfig

open Yaml (Data Form)
open Yaml.Form (optionalField presetField requiredField)

/-! ### Forms -/

/-- Values that other programs add to an entry. -/
def extensionsField : String × Bool × Form :=
  optionalField "extensions" (.sequence (.record [
    requiredField "name" .text, requiredField "extension" .json]))

/-- A text field that may be missing. -/
def textField (name : String) : String × Bool × Form := optionalField name .text

/-- The form of an entry with a name and a body. -/
def namedForm (bodyName : String) (body : Form) : Form :=
  .record [requiredField "name" .text, optionalField bodyName body]

/-- The form of a cluster. -/
def clusterForm : Form := .record [
  textField "server", optionalField "insecure-skip-tls-verify" .truth,
  textField "certificate-authority", textField "certificate-authority-data", textField "proxy-url",
  optionalField "disable-compression" .truth, textField "tls-server-name", extensionsField]

/-- The form of a program that finds out who the user is. -/
def execForm : Form := .record [
  textField "apiVersion", textField "command", optionalField "args" (.sequence .text),
  optionalField "env" (.sequence (.mapping .text)),
  optionalField "interactiveMode" (.choice ["Never", "IfAvailable", "Always"]),
  presetField "provideClusterInfo" .truth]

/-- The form of a user. -/
def userForm : Form := .record [
  textField "username", textField "password", textField "token", textField "tokenFile",
  textField "client-certificate", textField "client-certificate-data", textField "client-key",
  textField "client-key-data", textField "as", optionalField "as-groups" (.sequence .text),
  optionalField "auth-provider" (.record [
    requiredField "name" .text, presetField "config" (.mapping .text)]),
  optionalField "exec" execForm]

/-- The form of a context. -/
def contextForm : Form := .record [
  requiredField "cluster" .text, textField "user", textField "namespace", extensionsField]

/-- The form of a document. -/
def form : Form := .record [
  optionalField "preferences" (.record [optionalField "colors" .truth, extensionsField]),
  optionalField "clusters" (.sequence (namedForm "cluster" clusterForm)),
  optionalField "users" (.sequence (namedForm "user" userForm)),
  optionalField "contexts" (.sequence (namedForm "context" contextForm)),
  textField "current-context", extensionsField, textField "kind", textField "apiVersion"]

/-! ### Reading -/

/-- The text of a field. -/
def text? (name : String) (data : Data) : Option String := (data.member? name).bind Data.text?

/-- A cluster of the form. -/
def clusterOfData (data : Data) : ClusterEntry where
  server := text? "server" data
  authorityPath := text? "certificate-authority" data
  authorityData := text? "certificate-authority-data" data
  proxyUrl := text? "proxy-url" data
  serverName := text? "tls-server-name" data

/-- A service of the form. -/
def tokenServiceOfData (data : Data) : TokenService where
  name := (text? "name" data).getD ""
  settings := (((data.member? "config").bind Data.entries?).getD []).filterMap fun (key, value) =>
    key.text?.bind fun key => value.text?.map fun value => (key, value)

/-- The value of a field that may be missing or nothing. -/
def present? (name : String) (data : Data) : Option Data :=
  (data.member? name).filter fun value => !value.isNull

/-- A user of the form. -/
def userOfData (data : Data) : UserEntry where
  token := text? "token" data
  tokenPath := text? "tokenFile" data
  username := text? "username" data
  password := text? "password" data
  certificatePath := text? "client-certificate" data
  certificateData := text? "client-certificate-data" data
  keyPath := text? "client-key" data
  keyData := text? "client-key-data" data
  actsAs := text? "as" data
  actsInGroups := (((data.member? "as-groups").bind Data.items?).getD []).filterMap Data.text?
  tokenService := (present? "auth-provider" data).map tokenServiceOfData
  hasProgram := (present? "exec" data).isSome

/-- A context of the form. -/
def contextOfData (data : Data) : ContextEntry where
  cluster := (text? "cluster" data).getD ""
  user := text? "user" data

/-- The named entries of a field; the field may be missing or nothing. -/
def entries {α : Type} (field bodyName : String) (body : Data → α) (data : Data) :
    List (Named α) :=
  (((data.member? field).bind Data.items?).getD []).map fun entry =>
    ⟨(text? "name" entry).getD "", (present? bodyName entry).map body⟩

/-- The document that a value stands for. -/
def ofData? (data : Data) : Option Kubeconfig :=
  if form.fits data then
    some {
      kind := text? "kind" data
      apiVersion := text? "apiVersion" data
      clusters := entries "clusters" "cluster" clusterOfData data
      users := entries "users" "user" userOfData data
      contexts := entries "contexts" "context" contextOfData data
      currentContext := text? "current-context" data }
  else none

/-- Entries, and then those of others whose names are new. -/
def extend {α : Type} (first second : List (Named α)) : List (Named α) :=
  first ++ second.filter fun entry => !first.any fun other => other.name == entry.name

/-- Whether two values that may be missing contradict each other. -/
def contradict : Option String → Option String → Bool
  | some first, some second => first != second
  | _, _ => false

/-- Two documents taken together, unless they are of different kinds or versions. -/
def merge? (first second : Kubeconfig) : Option Kubeconfig :=
  if contradict first.kind second.kind || contradict first.apiVersion second.apiVersion then none
  else some {
    kind := first.kind.or second.kind
    apiVersion := first.apiVersion.or second.apiVersion
    clusters := extend first.clusters second.clusters
    users := extend first.users second.users
    contexts := extend first.contexts second.contexts
    currentContext := first.currentContext.or second.currentContext }

/-- Documents taken together, after others. -/
def mergeAll? (config : Option Kubeconfig) : List Data → Option (Option Kubeconfig)
  | [] => some config
  | data :: documents => do
      let next ← ofData? data
      let merged ← match config with
        | none => some next
        | some config => config.merge? next
      mergeAll? (some merged) documents

/-- What the documents of a file say. A file without documents says nothing. -/
def ofDocuments? (documents : List Data) : Option Kubeconfig :=
  (mergeAll? none documents).map fun config => config.getD {}

end Kubeconfig

/-! ## Credentials

What users show to servers, and what servers are trusted by. It is given in the kubeconfig file
itself, in base 64, or in files of its own. Here it is only made sure that it can be used.
-/

/-- The token that a service has at hand, at a time in seconds. A token to be used until a certain
time must be good for a minute more. -/
def TokenService.token? (now : Int) (service : TokenService) : Option String :=
  match service.name with
  | "oidc" => setting? "id-token"
  | "gcp" => (setting? "id-token").or
      (if (setting? "expiry").any isLate then setting? "access-token" else none)
  | _ => none
where
  /-- The last setting with a name. -/
  setting? (name : String) : Option String := service.settings.reverse.lookup name
  /-- Whether a time is late enough. -/
  isLate (text : String) : Bool :=
    match Timestamp.parse text with
    | .ok time => now + 60 < time.unixSeconds
    | .error _ => false

namespace Kubeconfig

variable {m : Type → Type} [Monad m]

/-! ### Files -/

/-- A path in a kubeconfig file, which starts from the directory of the file. It stays as it is if
it is not a text from there. -/
def resolvePath (kubeconfig : SystemText) (path : String) : SystemText :=
  match Path.parent? kubeconfig with
  | none => .ofText path
  | some directory =>
      let beside := Path.join directory (.ofText path)
      if beside.text?.isSome then beside else .ofText path

/-- The bytes of a file that a kubeconfig file names. -/
def readBeside (files : Files m) (kubeconfig : SystemText) (path : String) :
    m (Option ByteArray) := do
  match ← files.read (resolvePath kubeconfig path) with
  | .ok bytes => pure (some bytes)
  | .error _ => pure none

/-- Bytes that are there in base 64, or else in a file. -/
def loadBytes (files : Files m) (kubeconfig : SystemText) (data path : Option String) :
    m (Option (List UInt8)) :=
  match data, path with
  | some data, _ => pure (Text.ofBase64? data.toList)
  | none, some path => do pure ((← readBeside files kubeconfig path).map (·.toList))
  | none, none => pure none

/-- Bytes that end with a line break, if there are any. -/
def endLine (bytes : List UInt8) : List UInt8 :=
  if bytes.getLast?.all (· == 10) then bytes else bytes ++ [10]

/-! ### What servers are trusted by -/

/-- The certificates that a server is trusted by, unless they cannot be read. -/
def loadAuthority (files : Files m) (kubeconfig : SystemText) (cluster : ClusterEntry) :
    m (Option (List (List UInt8))) :=
  if cluster.authorityData.isNone && cluster.authorityPath.isNone then pure (some [])
  else do
    match ← loadBytes files kubeconfig cluster.authorityData cluster.authorityPath with
    | none => pure none
    | some bytes => pure <| (Pem.sections? (endLine bytes)).map fun sections =>
        (sections.filter (·.label == "CERTIFICATE")).map Pem.Section.content

/-! ### What users show -/

/-- How a user shows who it is with every request, at a time in seconds, if that can be had. A token
service counts more than a password, then come a token, a token in a file and a program; no programs
are run. -/
def authorization (files : Files m) (now : Int) (kubeconfig : SystemText) (user : UserEntry) :
    m (Option Authorization) :=
  match user.tokenService with
  | some service => pure ((service.token? now).map .token)
  | none =>
      if user.username.isSome && user.password.isSome then pure (some .password)
      else match user.token, user.tokenPath with
        | some token, _ => pure (some (.token token))
        | none, some path => do
            let bytes ← readBeside files kubeconfig path
            pure ((bytes.bind String.fromUTF8?).map .token)
        | none, none => pure (if user.hasProgram then none else some .absent)

/-- Whether the certificate and the key of a user can be shown, if it has both. If one of them
cannot be read, the user has none. -/
def canIdentify (files : Files m) (kubeconfig : SystemText) (user : UserEntry) : m Bool := do
  let certificate ← loadBytes files kubeconfig user.certificateData user.certificatePath
  let key ← loadBytes files kubeconfig user.keyData user.keyPath
  match certificate, key with
  | some certificate, some key => pure (Identity.isUsable (endLine key ++ endLine certificate))
  | _, _ => pure true

/-- Whether the user and the groups that a user acts for can be named. -/
def canActFor (user : UserEntry) : Bool :=
  user.actsAs.all Http.isSayable && user.actsInGroups.all Http.isSayable

end Kubeconfig

/-! ## From a target to a server

A target names a kubeconfig file and perhaps a context; without one the file's current context is
meant, and nothing else is tried. The context must be listed in the file, and lead to a cluster
whose server can be addressed and a user who can show what it has to. Nothing is asked of the server
yet.
-/

/-- Why no client can be set up for a target. -/
inductive ConnectError where
  /-- The file cannot be read, or is no kubeconfig file. -/
  | unreadable (path : SystemText)
  /-- Neither the target nor the file names a context. -/
  | noContext (path : SystemText)
  | unlistedContext (context : String) (path : SystemText)
  /-- The context leads to no server, or to one whose certificates cannot be read. -/
  | unusableContext (context : String)
  /-- The server cannot be asked in the way the context wants it. -/
  | noClient (context : String)
  deriving DecidableEq

/-- The wording of a failure. -/
def ConnectError.message : ConnectError → String
  | .unreadable path => "Failed to read kubeconfig " ++ path.shown
  | .noContext path => "No context specified and no current context in " ++ path.shown
  | .unlistedContext context path =>
      "Context '" ++ context ++ "' not found in " ++ path.shown
  | .unusableContext context => "Failed to load kubeconfig for context '" ++ context ++ "'"
  | .noClient context => "Failed to create client for context '" ++ context ++ "'"

/-- A server, and the context that led to it. -/
structure ApiServer where
  context : String
  address : ServerAddress
  authorization : Authorization := .absent
  deriving DecidableEq, Inhabited

namespace Kubeconfig

/-- What a file's content says. -/
def ofBytes? (bytes : ByteArray) : Option Kubeconfig := do
  let text ← Text.ofMarkedBytes? bytes
  let documents ← Yaml.documents? text
  ofDocuments? documents

/-- The context that a target means. -/
def selectContext (config : Kubeconfig) (target : KubeTarget) : Except ConnectError String :=
  match target.clusterContext.or config.currentContext with
  | none => .error (.noContext target.path)
  | some context =>
      if config.contexts.any fun entry => entry.name == context then .ok context
      else .error (.unlistedContext context target.path)

/-- The cluster of a context. -/
def cluster? (config : Kubeconfig) (context : String) : Option ClusterEntry := do
  let entry ← Named.find? config.contexts context
  Named.find? config.clusters entry.cluster

/-- The user of a context; a user that is not listed has nothing to show. -/
def user (config : Kubeconfig) (context : String) : UserEntry :=
  match (Named.find? config.contexts context).bind ContextEntry.user with
  | some name => (Named.find? config.users name).getD {}
  | none => {}

/-- The proxy that a cluster is reached through. -/
def proxy? (cluster : ClusterEntry) : Option String :=
  cluster.proxyUrl.filter fun url => !url.isEmpty

variable {m : Type → Type} [Monad m]

/-- The content of a kubeconfig file. -/
def read (files : Files m) (path : SystemText) : m (Option Kubeconfig) := do
  match ← files.read path with
  | .ok bytes => pure (ofBytes? bytes)
  | .error _ => pure none

/-- Whether the proxy of a cluster, if it has one, can be addressed. -/
def hasAddressableProxy (cluster : ClusterEntry) : Bool :=
  match proxy? cluster with
  | some url => (ServerAddress.parse? url).isSome
  | none => true

/-- A cluster that can be addressed. -/
structure Endpoint where
  address : ServerAddress
  cluster : ClusterEntry
  /-- The certificates that the server is trusted by. -/
  authority : List (List UInt8)

/-- The cluster that a context leads to, with the address of its server. -/
def endpoint (files : Files m) (path : SystemText) (context : String) (config : Kubeconfig) :
    m (Option Endpoint) := do
  match config.cluster? context with
  | none => pure none
  | some cluster =>
      match cluster.server.bind ServerAddress.parse? with
      | none => pure none
      | some address =>
          match ← loadAuthority files path cluster with
          | none => pure none
          | some authority =>
              if hasAddressableProxy cluster then pure (some ⟨address, cluster, authority⟩)
              else pure none

/-- Whether a server can be asked without regard to the user: proxies are not supported, and what
its certificate is checked by must make sense. -/
def Endpoint.isUsable (endpoint : Endpoint) : Bool :=
  (proxy? endpoint.cluster).isNone && endpoint.authority.all Certificate.isAnchor &&
    endpoint.cluster.serverName.all HostName.isCertifiable

/-- How a server is asked as a user, at a time in seconds, if it can be asked. -/
def authorize (files : Files m) (now : Int) (path : SystemText) (endpoint : Endpoint)
    (user : UserEntry) : m (Option Authorization) := do
  let authorization ← authorization files now path user
  let isIdentified ← canIdentify files path user
  pure (if endpoint.isUsable && isIdentified && canActFor user then authorization else none)

/-- The server of a context in a file, at a time in seconds. -/
def bind (files : Files m) (now : Int) (path : SystemText) (context : String)
    (config : Kubeconfig) :
    m (Except ConnectError ApiServer) := do
  match ← endpoint files path context config with
  | none => pure (.error (.unusableContext context))
  | some endpoint =>
      match ← authorize files now path endpoint (config.user context) with
      | some authorization => pure (.ok ⟨context, endpoint.address, authorization⟩)
      | none => pure (.error (.noClient context))

/-- The server that a target means, at a time in seconds since the year 1970. -/
def connect (files : Files m) (now : Int) (target : KubeTarget) :
    m (Except ConnectError ApiServer) := do
  match ← read files target.path with
  | none => pure (.error (.unreadable target.path))
  | some config =>
      match config.selectContext target with
      | .error error => pure (.error error)
      | .ok context => bind files now target.path context config

end Kubeconfig

/-! ## Clusters behind servers

The clusters that are reached through kubeconfig files and the servers they name.
-/

variable {m : Type → Type} [Monad m]

/-- Searches the cluster of a server. -/
def ApiServer.searcher (http : Http m) (server : ApiServer) : Searcher m := fun query => do
  let http := http.authorized server.authorization
  match ← Listing.search http server.address query with
  | .ok listings => pure (.ok listings)
  | .error error => pure (.error error.message)

/-- The clusters that kubeconfig files lead to, given a clock that tells the seconds since the year
1970. -/
def Clusters.ofFiles (files : Files m) (http : Http m) (clock : m Int) : Clusters m where
  connect target := do
    match ← Kubeconfig.connect files (← clock) target with
    | .ok server => pure (.ok (server.searcher http))
    | .error error => pure (.error error.message)

end ClusterHosts
