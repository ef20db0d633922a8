import HstsPreload.Header
import Mathlib.Data.Finset.Basic
import Mathlib.Data.Finset.Card
import Mathlib.Data.List.Induction
import Mathlib.Tactic.Lemma
import Mathlib.Tactic.SplitIfs

/-!
# What the directives of a header come to

Directives are taken in one after another, with the names already seen beside them. What comes of it
rests on the first directive of each name: that one alone sets a field or is refused, and every further
one is only warned of.
-/

namespace HstsPreload.Header

open Text

def first? (name : String) (ds : List Directive) : Option Directive :=
  ds.find? (·.name = name)

lemma first?_concat (name : String) (ds : List Directive) (d : Directive) :
    first? name (ds ++ [d]) = (first? name ds).or (if d.name = name then some d else none) := by
  by_cases h : d.name = name
  · simp [first?, List.find?_append, h]
  · simp [first?, List.find?_append, h]

lemma first?_eq_none {name : String} {ds : List Directive} :
    first? name ds = none ↔ name ∉ ds.map Directive.name := by
  simp [first?]

lemma first?_concat_of_mem {ds : List Directive} {d : Directive}
    (h : d.name ∈ ds.map Directive.name) (name : String) :
    first? name (ds ++ [d]) = first? name ds := by
  rw [first?_concat]
  split_ifs with hname
  · cases hfirst : first? name ds with
    | none => exact absurd (hname ▸ h) (first?_eq_none.mp hfirst)
    | some e => rfl
  · exact Option.or_none

def Directive.age (d : Directive) : Except NumberFault Nat :=
  readNat largestAge (unquoted (d.value.getD "")).toList

def Directive.ageIssues (d : Directive) : List Issue :=
  match d.age with
  | .ok _ => []
  | .error _ => [invalidMaxAge (unquoted (d.value.getD ""))]

/-- The header that the first directives of each name make up. -/
def ofFirsts (first : String → Option Directive) : Header where
  maxAge := (first "max-age").bind fun d => d.age.toOption
  includeSubDomains := (first "includesubdomains").isSome
  preload := (first "preload").isSome

/-- What is wrong with the first directives of each name. -/
def issuesOfFirsts (first : String → Option Directive) : List Issue :=
  (first "max-age").elim [] Directive.ageIssues

def knownNames : Finset String :=
  {"max-age", "includesubdomains", "preload"}

/-! ### Taking in one directive more -/

lemma takeDirective_of_age {d : Directive} (hd : d.name = "max-age") (h : Header)
    (issues : Issues) : takeDirective h issues d =
      ({ h with maxAge := d.age.toOption.or h.maxAge },
        { issues with errors := issues.errors ++ d.ageIssues }) := by
  have hread : d.age = readNat largestAge (unquoted (d.value.getD "")).toList := rfl
  unfold takeDirective
  rw [if_pos hd]
  simp only [← hread, Directive.ageIssues]
  cases d.age with
  | ok seconds => simp [Except.toOption]
  | error fault => simp [Except.toOption, Issues.pushError]

/-- What comes of directives from the start. -/
def taken (ds : List Directive) : Header × Issues :=
  takeDirectives [] {} {} ds

lemma takeDirectives_concat (seen : List String) (h : Header) (issues : Issues)
    (ds : List Directive) (d : Directive) :
    takeDirectives seen h issues (ds ++ [d]) =
      let r := takeDirectives seen h issues ds
      if d.name ∈ seen ∨ d.name ∈ ds.map Directive.name then
        (r.1, r.2.pushWarning (repeatedDirective d.name))
      else takeDirective r.1 r.2 d := by
  induction ds generalizing seen h issues with
  | nil => by_cases hd : d.name ∈ seen <;> simp [takeDirectives, hd]
  | cons e ds ih =>
    by_cases he : e.name ∈ seen
    · -- a name that was seen before is no news to the directives behind it
      have hseen : d.name ∈ seen ∨ d.name ∈ ds.map Directive.name ↔
          d.name ∈ seen ∨ d.name ∈ (e :: ds).map Directive.name := by
        rw [List.map_cons, List.mem_cons]
        refine ⟨fun h => h.imp_right .inr, ?_⟩
        rintro (h | h | h)
        exacts [.inl h, .inl (h ▸ he), .inr h]
      simp only [List.cons_append, takeDirectives, List.contains_iff_mem, he, if_true, ih, hseen]
    · have hseen : d.name ∈ e.name :: seen ∨ d.name ∈ ds.map Directive.name ↔
          d.name ∈ seen ∨ d.name ∈ (e :: ds).map Directive.name := by
        simp only [List.map_cons, List.mem_cons, or_assoc, or_left_comm]
      simp only [List.cons_append, takeDirectives, List.contains_iff_mem, he, if_false, ih, hseen]

lemma taken_concat_of_mem {ds : List Directive} {d : Directive}
    (h : d.name ∈ ds.map Directive.name) : taken (ds ++ [d]) =
      ((taken ds).1, (taken ds).2.pushWarning (repeatedDirective d.name)) := by
  rw [taken, takeDirectives_concat]
  exact if_pos (.inr h)

lemma taken_concat_of_notMem {ds : List Directive} {d : Directive}
    (h : d.name ∉ ds.map Directive.name) :
    taken (ds ++ [d]) = takeDirective (taken ds).1 (taken ds).2 d := by
  rw [taken, takeDirectives_concat]
  exact if_neg (by simpa using h)

/-! ### The header, the errors and the warnings -/

theorem taken_fst (ds : List Directive) : (taken ds).1 = ofFirsts (first? · ds) := by
  induction ds using List.reverseRecOn with
  | nil => rfl
  | append_singleton ds d ih =>
    by_cases hmem : d.name ∈ ds.map Directive.name
    · rw [taken_concat_of_mem hmem, ih]
      simp only [first?_concat_of_mem hmem]
    · have hnone : first? d.name ds = none := first?_eq_none.mpr hmem
      rw [taken_concat_of_notMem hmem, ih]
      by_cases hage : d.name = "max-age"
      · rw [hage] at hnone
        rw [takeDirective_of_age hage]
        simp [ofFirsts, first?_concat, hage, hnone]
      · unfold takeDirective
        rw [if_neg hage]
        split_ifs with hsub hpre
        · simp [ofFirsts, first?_concat, hsub]
        · simp [ofFirsts, first?_concat, hpre]
        · simp [ofFirsts, first?_concat, hage, hsub, hpre]

theorem errors_taken (ds : List Directive) :
    (taken ds).2.errors = issuesOfFirsts (first? · ds) := by
  induction ds using List.reverseRecOn with
  | nil => rfl
  | append_singleton ds d ih =>
    by_cases hmem : d.name ∈ ds.map Directive.name
    · rw [taken_concat_of_mem hmem, Issues.pushWarning, ih]
      simp only [issuesOfFirsts, first?_concat_of_mem hmem]
    · have hnone : first? d.name ds = none := first?_eq_none.mpr hmem
      rw [taken_concat_of_notMem hmem]
      by_cases hage : d.name = "max-age"
      · rw [hage] at hnone
        rw [takeDirective_of_age hage, ih]
        simp [issuesOfFirsts, first?_concat, hage, hnone]
      · unfold takeDirective
        rw [if_neg hage]
        split_ifs
        · simp [issuesOfFirsts, first?_concat, hage, ih]
        · simp [issuesOfFirsts, first?_concat, hage, ih]
        · simp [issuesOfFirsts, first?_concat, hage, ih, Issues.pushWarning]

/-- How many of the names that mean something occur. -/
def knownCount (ds : List Directive) : Nat :=
  ((ds.map Directive.name).toFinset ∩ knownNames).card

lemma toFinset_names_concat (ds : List Directive) (d : Directive) :
    ((ds ++ [d]).map Directive.name).toFinset = insert d.name (ds.map Directive.name).toFinset := by
  ext name
  simp

lemma knownCount_concat_of_mem {ds : List Directive} {d : Directive}
    (h : d.name ∈ ds.map Directive.name) : knownCount (ds ++ [d]) = knownCount ds := by
  rw [knownCount, toFinset_names_concat, Finset.insert_eq_of_mem (List.mem_toFinset.mpr h),
    knownCount]

lemma knownCount_concat_of_notMem {ds : List Directive} {d : Directive}
    (h : d.name ∉ ds.map Directive.name) :
    knownCount (ds ++ [d]) = knownCount ds + if d.name ∈ knownNames then 1 else 0 := by
  rw [knownCount, toFinset_names_concat]
  split_ifs with hknown
  · have hnew : d.name ∉ (ds.map Directive.name).toFinset ∩ knownNames :=
      fun hmem => h (List.mem_toFinset.mp (Finset.mem_inter.mp hmem).1)
    rw [Finset.insert_inter_of_mem hknown, Finset.card_insert_of_notMem hnew, knownCount]
  · rw [Finset.insert_inter_of_notMem hknown, Nat.add_zero, knownCount]

lemma length_warnings_takeDirective (h : Header) (issues : Issues) (d : Directive) :
    (takeDirective h issues d).2.warnings.length + (if d.name ∈ knownNames then 1 else 0) =
      issues.warnings.length + 1 := by
  by_cases hage : d.name = "max-age"
  · rw [takeDirective_of_age hage, if_pos (by simp [knownNames, hage])]
  · unfold takeDirective
    rw [if_neg hage]
    by_cases hsub : d.name = "includesubdomains"
    · simp [hsub, knownNames]
    · by_cases hpre : d.name = "preload"
      · simp [hpre, knownNames]
      · simp [hage, hsub, hpre, knownNames, Issues.pushWarning]

/-- Every directive is warned of, unless it is the first of a name that means something. -/
theorem length_warnings_taken (ds : List Directive) :
    (taken ds).2.warnings.length + knownCount ds = ds.length := by
  induction ds using List.reverseRecOn with
  | nil => rfl
  | append_singleton ds d ih =>
    rw [List.length_append, List.length_singleton]
    by_cases hmem : d.name ∈ ds.map Directive.name
    · rw [taken_concat_of_mem hmem, knownCount_concat_of_mem hmem, Issues.pushWarning,
        List.length_append, List.length_singleton]
      omega
    · have hwarnings := length_warnings_takeDirective (taken ds).1 (taken ds).2 d
      rw [taken_concat_of_notMem hmem, knownCount_concat_of_notMem hmem]
      omega

end HstsPreload.Header
