import HstsPreload.Text.Blank
import HstsPreload.Text.Percent

/-!
Requests and responses.
-/

namespace HstsPreload.Web

open HstsPreload.Text

structure Request where
  method : String
  path : String
  query : List Char := []
  headers : List (String × String) := []
  deriving Repr, DecidableEq

namespace Request

/-- What follows a scheme and the authority behind it, if the target starts with them. -/
def pathAndQuery (target : List Char) : List Char :=
  let scheme := target.takeWhile fun c => c != ':' && c != '/' && c != '?'
  match target.drop scheme.length with
  | ':' :: '/' :: '/' :: rest => rest.dropWhile fun c => c != '/' && c != '?'
  | _ => target

/-- A request for a target; a fragment is no part of it, and an empty path is the root. -/
def ofTarget (method target : String) (headers : List (String × String)) : Request :=
  let cs := pathAndQuery (target.toList.takeWhile (· ≠ '#'))
  let path := cs.takeWhile (· ≠ '?')
  { method
    path := if path = [] then "/" else .ofList path
    query := (cs.dropWhile (· ≠ '?')).drop 1
    headers }

/-- The first header of a name, whatever its case. -/
def header? (r : Request) (name : String) : Option String :=
  (r.headers.find? fun (n, _) => lowerAscii n.toList == lowerAscii name.toList).map Prod.snd

/-- The values of a key of the query, in order. -/
def queryValues (r : Request) (key : String) : List String :=
  ((formPairs r.query).filter fun (k, _) => k == key.toList).map fun (_, v) => .ofList v

end Request

/-- The headers of a response that are told. -/
structure Response where
  status : Nat
  allow : Option String := none
  contentType : Option String := none
  transportSecurity : Option String := none
  body : String := ""
  deriving Repr, DecidableEq

namespace Response

/-- A response of plain text. -/
def text (status : Nat) (body : String) : Response :=
  { status, contentType := some "text/plain; charset=utf-8", body }

def internalError (message : String) : Response :=
  .text 500 s!"Internal error: {message}\n"

def withoutBody (r : Response) : Response :=
  { r with body := "" }

end Response

end HstsPreload.Web
