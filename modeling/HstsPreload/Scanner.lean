import HstsPreload.Header

/-!
Verdicts on domains: whether a site may join the list under a policy, and whether it may leave.
-/

namespace HstsPreload

open HstsPreload.Text

/-- A way to come to verdicts. -/
structure Scanner where
  eligible : String → Policy → Issues
  removable : String → Issues

namespace Scanner

/-- The verdict on a new submission. -/
def preloadable (s : Scanner) (domain : String) : Issues :=
  s.eligible domain .bulk1Year

/-- What is wrong with the form of a domain: it must have two labels, the first of them not `www`. -/
def formatIssues (domain : String) : Issues :=
  let cs := domain.toList
  { errors :=
      (if cs.contains '.' then []
        else [⟨"domain.format.only_one_label", "Only one label",
          s!"`{domain}` must have at least two labels."⟩])
      ++ if cs.take 4 = ['w', 'w', 'w', '.'] then
          let parent := String.ofList (cs.drop 4)
          [⟨"domain.format.www", "Subdomain",
            s!"`{domain}` is a subdomain. Please preload `{parent}` instead."⟩]
        else [] }

/-- What asking a site for its header gives: the header if there is one, or findings. -/
abbrev HeaderAnswer : Type := Except Issues (Option String)

/-- Verdicts that rest on the header of a site, which is only asked for when it is needed. -/
def ofHeaders (ask : String → HeaderAnswer) : Scanner where
  eligible domain policy :=
    let format := formatIssues domain
    if format.hasErrors then format
    else
      match ask domain with
      | .ok header => format ++ Header.preloadable header policy
      | .error issues => issues
  removable domain :=
    match ask domain with
    | .ok header => Header.removable header
    | .error issues => issues

end Scanner

end HstsPreload
