import ChatGateway.Settings

namespace ChatGateway

/-! The address of a model at the provider. The model is bound by the path and
never by the body of a call. -/

structure Endpoint where
  projectId : String
  region : String
  baseUrl : Option String
  deriving DecidableEq, Inhabited

namespace Endpoint

def ofSettings (settings : VertexSettings) : Endpoint where
  projectId := settings.projectId
  region := settings.region
  baseUrl := settings.baseUrl

def globalHost : String := "aiplatform.googleapis.com"

def host (endpoint : Endpoint) : String :=
  if endpoint.region = "global" then globalHost
  else endpoint.region ++ "-" ++ globalHost

/-- The model name without the publisher that clients put in front of it. -/
def modelId (model : String) : String :=
  ((Text.dropHead? model "publishers/anthropic/models/").or
    ((Text.dropHead? model "anthropic/").or (Text.dropHead? model "vertex_ai/"))).getD model

def path (endpoint : Endpoint) (model : String) : String :=
  "/v1/projects/" ++ endpoint.projectId ++ "/locations/" ++ endpoint.region ++
    "/publishers/anthropic/models/" ++ modelId model ++ ":rawPredict"

def withoutTrailingSlashes (text : String) : String :=
  String.ofList (text.toList.reverse.dropWhile (· == '/')).reverse

def base (endpoint : Endpoint) : String :=
  (endpoint.baseUrl.map withoutTrailingSlashes).getD ("https://" ++ endpoint.host)

def url (endpoint : Endpoint) (model : String) : String :=
  endpoint.base ++ endpoint.path model

end Endpoint

def isSupportedModel (model : String) : Bool :=
  Text.mentions model "claude"

end ChatGateway
