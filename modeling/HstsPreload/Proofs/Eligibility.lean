import HstsPreload.Proofs.Rechecks
import HstsPreload.Proofs.StandingHeader

/-!
# Eligibility under one policy and under another

Policies differ in the age they ask for and in nothing else. So a header that is good enough for one
policy is good enough for every policy that asks for no longer an age, and a name that may join the
list for a year is never one that must leave it even for the shorter term.
-/

namespace HstsPreload

namespace Header

lemma preloadable_of_le {raw : Option String} {p q : Policy}
    (hle : requiredMaxAge q ≤ requiredMaxAge p)
    (h : (preloadable raw p).hasErrors = false) : (preloadable raw q).hasErrors = false := by
  cases raw with
  | none => exact h
  | some raw =>
    obtain ⟨herrors, ⟨age, hage, hlong⟩, hdirectives⟩ := hasErrors_preloadable_eq_false.mp h
    exact hasErrors_preloadable_eq_false.mpr ⟨herrors, ⟨age, hage, hle.trans hlong⟩, hdirectives⟩

end Header

namespace Scanner

/-- Whether no policy is harder on a domain than one that asks for at least as long an age. -/
def Graded (s : Scanner) : Prop :=
  ∀ domain p q, Header.requiredMaxAge q ≤ Header.requiredMaxAge p →
    (s.eligible domain p).hasErrors = false → (s.eligible domain q).hasErrors = false

lemma graded_ofHeaders (ask : String → HeaderAnswer) : (ofHeaders ask).Graded := by
  intro domain p q hle h
  obtain ⟨hformat, hheader⟩ := hasErrors_eligible_ofHeaders.mp h
  refine hasErrors_eligible_ofHeaders.mpr ⟨hformat, ?_⟩
  cases hask : ask domain with
  | error issues => rwa [hask] at hheader
  | ok header =>
    rw [hask] at hheader
    exact Header.preloadable_of_le hle hheader

end Scanner

open Checks

/-- The checks of the two lists ask for opposite verdicts, and the one under which names are added
asks for the longer age. -/
lemma PendingChanges.disjoint_recheck {s : Scanner} (hs : s.Graded) (c : PendingChanges) :
    (c.recheck s).additions.Disjoint (c.recheck s).automatedRemovals := by
  intro name hjoin hleave
  have hyear := (mem_kept.mp hjoin).2
  have hweeks := (mem_kept.mp hleave).2
  cases hclean : (s.eligible name .bulk1Year).hasErrors with
  | true =>
    rw [hclean] at hyear
    cases hyear
  | false =>
    rw [hs name .bulk1Year .bulk18Weeks (by decide) hclean] at hweeks
    cases hweeks

/-- A header that is good enough for a policy is good enough for every policy that asks for no longer
an age. So whatever headers the sites send, or fail to send, no name that is still to be added is to
be taken off by a scan: once all checks have ended, in whatever order they did, the two lists have no
name in common. -/
theorem no_name_joins_and_leaves :
    (∀ (raw : Option String) (p q : Policy),
      Header.requiredMaxAge q ≤ Header.requiredMaxAge p →
      (Header.preloadable raw p).hasErrors = false →
      (Header.preloadable raw q).hasErrors = false) ∧
    ∀ (ask : String → Scanner.HeaderAnswer),
      (∀ c : PendingChanges, (c.recheck (.ofHeaders ask)).additions.Disjoint
        (c.recheck (.ofHeaders ask)).automatedRemovals) ∧
      ∀ h h' : HeldChanges,
        Relation.ReflTransGen (Recheck.Step (.ofHeaders ask)) (.start h) (.ended h') →
        h'.changes.additions.Disjoint h'.changes.automatedRemovals := by
  refine ⟨fun raw p q => Header.preloadable_of_le, fun ask => ?_⟩
  have hdisjoint := PendingChanges.disjoint_recheck (Scanner.graded_ofHeaders ask)
  refine ⟨hdisjoint, fun h h' hrun => ?_⟩
  rw [Recheck.eq_of_ended hrun]
  exact hdisjoint h.changes

namespace Scanned

/-- One site asks for 18 weeks, one for a year, and the others send no header. -/
def header (domain : String) : Option String :=
  if domain = "a.example" then some "max-age=10886400; includeSubDomains; preload"
  else if domain = "b.example" then some "max-age=31536000; includeSubDomains; preload"
  else none

def both : PendingChanges where
  additions := ["a.example", "b.example", "c.example"]
  automatedRemovals := ["a.example", "b.example", "c.example"]

theorem eighteen_weeks_on_neither_list :
    let s : Scanner := .ofHeaders fun domain => .ok (header domain)
    (Header.preloadable (header "b.example") .bulk1Year).hasErrors = false ∧
      (Header.preloadable (header "b.example") .bulk18Weeks).hasErrors = false ∧
      (both.recheck s).additions = ["b.example"] ∧
      (both.recheck s).automatedRemovals = ["c.example"] ∧
      (both.recheck s).additions.Disjoint (both.recheck s).automatedRemovals := by
  intro s
  have hyear : (Header.preloadable (header "b.example") .bulk1Year).hasErrors = false := by decide
  have hweeks := no_name_joins_and_leaves.1 (header "b.example") .bulk1Year .bulk18Weeks
    (by decide) hyear
  have hjoin : (both.additions.filter fun name => !(s.eligible name .bulk1Year).hasErrors) =
      ["b.example"] := by decide
  have hleave : (both.automatedRemovals.filter fun name =>
      (s.eligible name .bulk18Weeks).hasErrors) = ["c.example"] := by decide
  refine ⟨hyear, hweeks, ?_, ?_, (no_name_joins_and_leaves.2 _).1 both⟩
  · dsimp only [PendingChanges.recheck]
    rw [kept_ofBool, hjoin, List.mergeSort_singleton]
  · dsimp only [PendingChanges.recheck]
    rw [kept_ofBool, hleave, List.mergeSort_singleton]

end Scanned

end HstsPreload
