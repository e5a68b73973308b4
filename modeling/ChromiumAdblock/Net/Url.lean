import Mathlib.Logic.Basic

/-! URLs as the request code sees them, the functions of the `url` and `net` libraries that it
calls, and the network errors and resource types that it names. -/

namespace ChromiumAdblock

/-- What the code reads of a `GURL`: its specification, whether it is valid, its scheme, and its
host.  A valid URL has a nonempty specification. -/
structure GURL where
  spec : String
  isValid : Bool
  scheme : String
  host : String
  spec_ne : isValid = true → spec ≠ ""
deriving DecidableEq, Repr

namespace GURL

/-- `GURL()`. -/
def empty : GURL := ⟨"", false, "", "", by simp⟩

/-- The `https` URL of a host and a path. -/
def https (host path : String) : GURL where
  spec := "https://" ++ host ++ path
  isValid := true
  scheme := "https"
  host := host
  spec_ne := by simp [String.append_eq_empty_iff]

/-- The `wss` URL of a host and a path. -/
def wss (host path : String) : GURL where
  spec := "wss://" ++ host ++ path
  isValid := true
  scheme := "wss"
  host := host
  spec_ne := by simp [String.append_eq_empty_iff]

def isEmpty (url : GURL) : Bool := url.spec == ""
def hasHost (url : GURL) : Bool := url.host != ""
def schemeIs (url : GURL) (scheme : String) : Bool := url.scheme == scheme
def schemeIsHTTPOrHTTPS (url : GURL) : Bool := url.schemeIs "http" || url.schemeIs "https"
def schemeIsWSOrWSS (url : GURL) : Bool := url.schemeIs "ws" || url.schemeIs "wss"

@[simp] theorem isEmpty_empty : GURL.empty.isEmpty = true := rfl

theorem isEmpty_of_isValid {url : GURL} (h : url.isValid = true) : url.isEmpty = false := by
  simpa [isEmpty] using url.spec_ne h

end GURL

/-- The functions of the `url` and `net` libraries that the request code calls. -/
structure UrlLibrary where
  /-- `GURL(spec)`. -/
  parse : String → GURL
  /-- `ReplaceComponents` with only the host set. -/
  replaceHost : GURL → String → GURL
  /-- `SameDomainOrHost` with private registries, of a URL and the `https` origin of a host. -/
  sameDomainOrHost : GURL → String → Bool
  /-- `IsSameOriginWith`, of the origins of two URLs. -/
  isSameOriginWith : GURL → GURL → Bool

/-- A library that parses the given URLs and replaces hosts of URLs with the path `/`. -/
def UrlLibrary.ofUrls (urls : List GURL) : UrlLibrary where
  parse spec := (urls.find? fun url => url.spec == spec).getD .empty
  replaceHost _ host := .https host "/"
  sameDomainOrHost url host := url.host == host
  isSameOriginWith a b := a.scheme == b.scheme && a.host == b.host

namespace Net

abbrev OK : Int := 0
abbrev ERR_IO_PENDING : Int := -1
abbrev ERR_FAILED : Int := -2
abbrev ERR_ABORTED : Int := -3
abbrev ERR_INSUFFICIENT_RESOURCES : Int := -12
abbrev ERR_BLOCKED_BY_CLIENT : Int := -20

end Net

/-- `blink::mojom::ResourceType`, with the types that the code does not name under `other`. -/
inductive ResourceType
  | kMainFrame
  | kSubFrame
  | kStylesheet
  | kScript
  | kImage
  | kFontResource
  | kSubResource
  | kObject
  | kMedia
  | kWorker
  | kSharedWorker
  | kPrefetch
  | kFavicon
  | kXhr
  | kPing
  | kServiceWorker
  | kCspReport
  | kPluginResource
  | other (code : Nat)
  /-- `BraveRequestInfo::kInvalidResourceType`. -/
  | kInvalidResourceType
deriving DecidableEq, Repr

end ChromiumAdblock
