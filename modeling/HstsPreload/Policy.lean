import HstsPreload.Json.Typed

/-!
Policies: the tag under which a domain came to be on the list. A tag that means nothing here is kept
as it is.
-/

namespace HstsPreload

open HstsPreload.Json

/-- The policy of an entry; `other` holds any further tag. -/
inductive Policy where
  | unspecified
  | test
  | custom
  | bulkLegacy
  | bulk18Weeks
  | bulk1Year
  | other (tag : String)
  deriving Repr, DecidableEq, Inhabited

namespace Policy

def text : Policy → String
  | .unspecified => ""
  | .test => "test"
  | .custom => "custom"
  | .bulkLegacy => "bulk-legacy"
  | .bulk18Weeks => "bulk-18-weeks"
  | .bulk1Year => "bulk-1-year"
  | .other tag => tag

/-- The policies with a meaning of their own. -/
def named : List Policy :=
  [.unspecified, .test, .custom, .bulkLegacy, .bulk18Weeks, .bulk1Year]

/-- The policy that a tag stands for. -/
def ofText (tag : String) : Policy :=
  (named.find? fun p => p.text == tag).getD (.other tag)

/-- Whether domains join the list in bulk under the policy. -/
def isBulk : Policy → Bool
  | .bulkLegacy | .bulk18Weeks | .bulk1Year => true
  | _ => false

/-- Whether only list maintainers may remove the domain. -/
def isProtected : Policy → Bool
  | .custom | .other _ => true
  | _ => false

/-- The member that holds a policy, left out when there is none. -/
def member (p : Policy) : List (String × Value) :=
  if p = .unspecified then [] else [("policy", .string p.text)]

def read : Reader Policy := fun cs => do
  let (tag, rest) ← readString cs
  return (.ofText tag, rest)

end Policy

end HstsPreload
