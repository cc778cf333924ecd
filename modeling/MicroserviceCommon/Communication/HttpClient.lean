import MicroserviceCommon.Infra.Run

/-!
# `HTTPClient`: the headers of a request

`setHTTPHeadersOnce` collects the headers of the next POST in a list of curl. `sendRequestPOST`
gives the list to the session of curl and frees it after the request. The session keeps the pointer
until it is given another one, and a GET is sent with it as well.

A header has no NUL character, so that `c_str` gives the whole of it. The body of a request, the
cookies and the answer are left out.
-/

namespace MicroserviceCommon

/-- A `curl_slist *`, and whether the list it points to is still there. -/
inductive HeaderList where
  | null
  | live (headers : List String)
  | freed
  deriving DecidableEq, Repr

/-- What an append to a freed list does is undefined. -/
def curlSlistAppend : HeaderList → String → HeaderList
  | .null, header => .live [header]
  | .live headers, header => .live (headers ++ [header])
  | .freed, _ => .freed

/-- The pointer itself stays. -/
def curlSlistFreeAll : HeaderList → HeaderList
  | .null => .null
  | .live _ => .freed
  | .freed => .freed

/-- `httpheader` is the option `CURLOPT_HTTPHEADER` of the session. -/
structure HTTPClient where
  httpHeaders : HeaderList := .null
  httpheader : HeaderList := .null
  deriving DecidableEq, Repr

namespace HTTPClient

def setHTTPHeadersOnce (c : HTTPClient) (headers : List String) : HTTPClient :=
  { c with httpHeaders := headers.foldl curlSlistAppend c.httpHeaders }

/-- `sendRequestPOST` up to `curl_easy_perform`. -/
def preparePOST (c : HTTPClient) : HTTPClient :=
  let c :=
    if c.httpHeaders = .null then c.setHTTPHeadersOnce ["Content-Type: text/xml; charset=utf-8"]
    else c
  if c.httpHeaders ≠ .null then { c with httpheader := c.httpHeaders } else c

/-- The session has the same pointer, and its list is gone too. -/
def removeHeaders (c : HTTPClient) : HTTPClient :=
  if c.httpHeaders ≠ .null then
    { httpHeaders := curlSlistFreeAll c.httpHeaders
      httpheader := curlSlistFreeAll c.httpheader }
  else c

/-- Both exits remove the headers. `performed`: curl has sent the request. -/
def sendRequestPOST (c : HTTPClient) (performed : Bool) : HTTPClient × Bool :=
  let c := c.preparePOST
  if performed = false then (c.removeHeaders, false) else (c.removeHeaders, true)

end HTTPClient

inductive HttpAction where
  | setHTTPHeadersOnce (headers : List String)
  | sendRequestGET (performed : Bool)
  | sendRequestPOST (performed : Bool)
  | destroy
  deriving DecidableEq, Repr

/-- `passed` are the headers that were passed to `setHTTPHeadersOnce` since the last POST. -/
structure HttpRun where
  client : HTTPClient := {}
  passed : List String := []
  deriving DecidableEq, Repr

/-- A GET leaves the lists as they are. The destructor frees the list. -/
def HttpRun.step (s : HttpRun) : HttpAction → Option HttpRun
  | .setHTTPHeadersOnce headers =>
    some { client := s.client.setHTTPHeadersOnce headers, passed := s.passed ++ headers }
  | .sendRequestGET _ => some s
  | .sendRequestPOST performed =>
    some { client := (s.client.sendRequestPOST performed).1, passed := [] }
  | .destroy =>
    some { s with
      client := { s.client with httpHeaders := curlSlistFreeAll s.client.httpHeaders } }

end MicroserviceCommon
