import ChatGateway.Fault
import ChatGateway.Messages.Outgoing

namespace ChatGateway

/-! The settings of a gateway. -/

structure VertexSettings where
  projectId : String
  region : String
  /-- The environment variable that holds the access token. -/
  accessTokenVariable : String
  /-- Takes the place of the provider's host. -/
  baseUrl : Option String
  anthropicVersion : String
  maxTokens : UInt64
  deriving DecidableEq, Inhabited

namespace VertexSettings

def fields : Record VertexSettings :=
  VertexSettings.mk <$> .required "project_id" .string <*>
    .defaulted "region" .string "us-east5" <*>
    .defaulted "access_token_env" .string "VERTEX_ACCESS_TOKEN" <*>
    .optional "base_url" .string <*>
    .defaulted "anthropic_version" .string defaultAnthropicVersion <*>
    .defaulted "max_tokens" .uint64 defaultMaxTokens

def decode : Decoder VertexSettings :=
  fields.decode "struct VertexConfig"

def toJson (settings : VertexSettings) : Json :=
  .ofMembers (member "project_id" (.string settings.projectId) ++
    member "region" (.string settings.region) ++
    member "access_token_env" (.string settings.accessTokenVariable) ++
    member? "base_url" (settings.baseUrl.map .string) ++
    member "anthropic_version" (.string settings.anthropicVersion) ++
    member "max_tokens" (.ofUInt64 settings.maxTokens))

end VertexSettings

/-- The provider's model behind a name, alone or with its own limit. -/
inductive ModelRoute where
  | id (model : String)
  | detailed (model : String) (maxTokens : Option UInt64)
  deriving DecidableEq, Inhabited

namespace ModelRoute

def detailedFields : Record ModelRoute :=
  detailed <$> .required "model" .string <*> .omissible "max_tokens" .uint64

/-- A detailed route is written as an object only. -/
def decodeDetailed : Decoder ModelRoute
  | .object members => detailedFields.decodeMembers members
  | document => Decoder.fails document "struct variant ModelRoute::Detailed"

def decode : Decoder ModelRoute :=
  .union "ModelRoute" [fun document => (Decoder.string document).map .id, decodeDetailed]

def toJson : ModelRoute → Json
  | .id model => .string model
  | .detailed model maxTokens =>
      .ofMembers (member "model" (.string model) ++
        member? "max_tokens" (maxTokens.map .ofUInt64))

def model : ModelRoute → String
  | .id model | .detailed model _ => model

def maxTokens : ModelRoute → Option UInt64
  | .id _ => none
  | .detailed _ maxTokens => maxTokens

end ModelRoute

structure ResolvedModel where
  requested : String
  vertexModel : String
  maxTokens : Option UInt64
  deriving DecidableEq, Inhabited

namespace ResolvedModel

def toJson (resolved : ResolvedModel) : Json :=
  .ofMembers (member "requested" (.string resolved.requested) ++
    member "vertex_model" (.string resolved.vertexModel) ++
    member "max_tokens" (.ofOption (resolved.maxTokens.map .ofUInt64)))

end ResolvedModel

structure Settings where
  listenPort : UInt16
  vertex : VertexSettings
  /-- The names of models, in ascending order. -/
  models : List (String × ModelRoute)
  dropParams : List String
  deriving DecidableEq, Inhabited

namespace Settings

def modelTable : Decoder (List (String × ModelRoute)) := fun document =>
  match document with
  | .object members =>
      members.mapM fun (name, route) => (ModelRoute.decode route).map fun route => (name, route)
  | document => Decoder.fails document "a map"

def paramFields : Record (List String) :=
  id <$> .defaulted "drop" (.list .string) []

def fields : Record Settings :=
  Settings.mk <$> .defaulted "port" .uint16 4000 <*>
    .required "vertex" VertexSettings.decode <*> .defaulted "models" modelTable [] <*>
    .defaulted "params" (paramFields.decode "struct ParamsConfig") []

def decode : Decoder Settings :=
  fields.decode "struct ProxyConfig"

def toJson (settings : Settings) : Json :=
  .ofMembers (member "port" (.ofNat settings.listenPort.toNat) ++
    member "vertex" settings.vertex.toJson ++
    member "models" (.ofMembers (settings.models.map fun (name, route) => (name, route.toJson))) ++
    member "params" (.ofMembers (member "drop" (.ofStrings settings.dropParams))))

def check (settings : Settings) : Except Fault Unit :=
  if Text.allBlank settings.vertex.projectId then
    .error (.config "vertex.project_id must not be empty")
  else if Text.allBlank settings.vertex.region then
    .error (.config "vertex.region must not be empty")
  else if settings.vertex.maxTokens = 0 then
    .error (.config "vertex.max_tokens must be positive")
  else .ok ()

def accessToken (settings : Settings) (environment : String → Option String) :
    Except Fault String :=
  let name := settings.vertex.accessTokenVariable
  match (environment name).filter fun token => !Text.allBlank token with
  | some token => .ok token
  | none =>
      .error (.config ("Environment variable '" ++ name ++
        "' not set. Set it with a Vertex AI access token " ++
        "(e.g. `gcloud auth print-access-token`)."))

/-- A name that is not in the table stands for itself. -/
def resolve (settings : Settings) (requested : String) : ResolvedModel :=
  let route := settings.models.lookup requested
  { requested
    vertexModel := (route.map ModelRoute.model).getD requested
    maxTokens := route.bind ModelRoute.maxTokens }

def payloadOptions (settings : Settings) : PayloadOptions where
  anthropicVersion := settings.vertex.anthropicVersion
  maxTokens := settings.vertex.maxTokens
  dropParams := settings.dropParams

end Settings

end ChatGateway
