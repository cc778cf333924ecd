import MicroserviceCommon.Infra.Substring
import MicroserviceCommon.Infra.UnorderedMap

/-!
# `HTTPClient`: the cookies of a session

`fetchCookies` takes the name and the value from each line of the list that curl returns. A node is
its `data`, `none` for the null pointer, and a list without nodes is the null pointer itself.
-/

namespace MicroserviceCommon.HTTPClient

open Infra

/-- What ends `fetchCookies` before it returns. -/
inductive CookieFault where
  /-- a null pointer to a node is dereferenced -/
  | nullNode
  /-- `std::out_of_range` -/
  | outOfRange
  deriving DecidableEq, Repr

/-- `int tabPos = cookieData.find_last_of( "\t" ) + 1`. Without a tab `npos + 1` is `0`. -/
def behindLastTab (cookieData : String) : Int32 :=
  match findLastChar cookieData '\t' with
  | some pos => Int32.ofInt (pos + 1)
  | none => 0

/-- `cookieData.substr( tabPos, cookieData.size() - tabPos )`. A negative place is behind every
end. -/
def substrFrom (cookieData : String) (tabPos : Int32) : Except CookieFault String :=
  if tabPos < 0 then .error .outOfRange
  else
    match substr cookieData tabPos.toInt.toNat (cookieData.length - tabPos.toInt.toNat) with
    | none => .error .outOfRange
    | some token => .ok token

/-- `cookieData.erase( tabPos, cookieData.size() - tabPos )` -/
def eraseFrom (cookieData : String) (tabPos : Int32) : Except CookieFault String :=
  if tabPos < 0 ∨ cookieData.length < tabPos.toInt.toNat then .error .outOfRange
  else .ok (String.ofList (cookieData.toList.take tabPos.toInt.toNat))

/-- The token of a line, its key first. -/
def readToken (cookieData : String) : Except CookieFault (String × String) := do
  let tabPos := behindLastTab cookieData
  let tokenVal ← substrFrom cookieData tabPos
  let cookieData ← eraseFrom cookieData (tabPos - 1)
  let tokenKey ← substrFrom cookieData (behindLastTab cookieData)
  pure (tokenKey, tokenVal)

/-- The loop. The test is on the `data` of the node, and the last node loses its `data`. -/
def fetchFrom : List (Option String) → UnorderedMap String String →
    Except CookieFault (UnorderedMap String String)
  | [], _ => .error .nullNode
  | none :: _, cookies => .ok cookies
  | some data :: next, cookies => do
    let token ← readToken data
    let cookies := cookies.insert token.1 token.2
    -- without a next node the test finds the null pointer in this one
    if next = [] then .ok cookies else fetchFrom next cookies

/-- `cookieList` is the list of curl, `none` when `curl_easy_getinfo` fails. -/
def fetchCookies (cookieList : Option (List (Option String))) :
    Except CookieFault (UnorderedMap String String) :=
  match cookieList with
  | none => .ok UnorderedMap.empty
  | some nodes => fetchFrom nodes UnorderedMap.empty

end MicroserviceCommon.HTTPClient
