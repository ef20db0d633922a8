import HstsPreload.Proofs.Directives
import HstsPreload.Proofs.Lines
import HstsPreload.Proofs.Trimming

/-!
# Headers that ask for the same

What a header is refused for rests on the first directive of each name that means something. So a
header may be written in another order, in other letters or with more blanks, and may hold further
directives, and is refused for the same as before. What it holds besides is only warned of.
-/

namespace HstsPreload.Header

open Text

/-! ### Headers with the same first directives -/

/-- Whether each name that means something has the same first directive in both lists. -/
def AskSame (ds es : List Directive) : Prop :=
  ∀ name ∈ knownNames, first? name ds = first? name es

variable {ds es : List Directive} {name : String}

lemma AskSame.refl (ds : List Directive) : AskSame ds ds :=
  fun _ _ => rfl

lemma AskSame.trans {fs : List Directive} (h : AskSame ds es) (h' : AskSame es fs) :
    AskSame ds fs :=
  fun name hname => (h name hname).trans (h' name hname)

lemma AskSame.ofFirsts (h : AskSame ds es) :
    ofFirsts (first? · ds) = ofFirsts (first? · es) := by
  have hage := h "max-age" (by decide)
  have hsub := h "includesubdomains" (by decide)
  have hpre := h "preload" (by decide)
  simp only [Header.ofFirsts, hage, hsub, hpre]

lemma AskSame.issuesOfFirsts (h : AskSame ds es) :
    issuesOfFirsts (first? · ds) = issuesOfFirsts (first? · es) := by
  have hage := h "max-age" (by decide)
  simp only [Header.issuesOfFirsts, hage]

lemma AskSame.knownCount (h : AskSame ds es) : knownCount ds = knownCount es := by
  have hmem : ∀ name ∈ knownNames,
      name ∈ ds.map Directive.name ↔ name ∈ es.map Directive.name := by
    intro name hname
    rw [← not_iff_not, ← first?_eq_none, ← first?_eq_none, h name hname]
  unfold Header.knownCount
  congr 1
  ext name
  simp only [Finset.mem_inter, List.mem_toFinset]
  exact and_congr_left fun hname => hmem name hname

variable {raw raw' : String}

lemma AskSame.errors (h : AskSame (directives raw) (directives raw')) (policy : Policy) :
    (preloadable (some raw) policy).errors = (preloadable (some raw') policy).errors ∧
      (removable (some raw)).errors = (removable (some raw')).errors := by
  have hheader : (parse raw).1 = (parse raw').1 := by
    rw [parse, ← taken, taken_fst, h.ofFirsts, ← taken_fst]
    rfl
  have herrors : (parse raw).2.errors = (parse raw').2.errors := by
    rw [parse, ← taken, errors_taken, h.issuesOfFirsts, ← errors_taken]
    rfl
  constructor
  · simp only [preloadable, hheader, herrors]
  · simp only [removable, hheader]
    split_ifs
    · simp only [Issues.pushError, herrors]
    · exact herrors

lemma warnings_verdict (raw : String) (policy : Policy) :
    (preloadable (some raw) policy).warnings = (parse raw).2.warnings ∧
      (removable (some raw)).warnings = (parse raw).2.warnings := by
  refine ⟨rfl, ?_⟩
  unfold removable
  dsimp only
  split_ifs <;> rfl

lemma AskSame.length_warnings (h : AskSame (directives raw) (directives raw')) :
    (parse raw).2.warnings.length + (directives raw').length =
      (parse raw').2.warnings.length + (directives raw).length := by
  have hwarned := length_warnings_taken (directives raw)
  have hwarned' := length_warnings_taken (directives raw')
  have hcount := h.knownCount
  change (parse raw).2.warnings.length + _ = _ at hwarned
  change (parse raw').2.warnings.length + _ = _ at hwarned'
  omega

/-! ### Directives as they are written -/

/-- The texts between the semicolons of a header. -/
def pieces (raw : String) : List (List Char) :=
  splitAt ';' raw.toList

/-- The directive that a piece holds, unless it is blank. -/
def directive? (piece : List Char) : Option Directive :=
  if trim piece = [] then none else some (.ofText (trim piece))

lemma directives_eq (raw : String) : directives raw = (pieces raw).filterMap directive? := by
  rw [directives, pieces]
  induction splitAt ';' raw.toList with
  | nil => rfl
  | cons piece more ih =>
    by_cases hblank : trim piece = []
    · have hnone : directive? piece = none := if_pos hblank
      rw [List.map_cons, List.filter_cons_of_neg (by simpa using hblank), ih,
        List.filterMap_cons_none hnone]
    · have hsome : directive? piece = some (.ofText (trim piece)) := if_neg hblank
      rw [List.map_cons, List.filter_cons_of_pos (by simpa using hblank), List.map_cons, ih,
        List.filterMap_cons_some hsome]

lemma directive?_congr {piece piece' : List Char} (h : trim piece = trim piece') :
    directive? piece = directive? piece' := by
  rw [directive?, directive?, h]

lemma directive?_of_equals {word : List Char} (h : '=' ∉ word) (value : List Char) :
    directive? (word ++ '=' :: value) =
      some ⟨.ofList (lowerAscii (trim word)), some (.ofList (trim value))⟩ := by
  have htrim := trim_append_cons (by decide : isBlank '=' = false) word value
  have hword : '=' ∉ trimStart word := fun hmem => h ((List.dropWhile_suffix _).subset hmem)
  rw [directive?, htrim, if_neg (by simp), Directive.ofText, splitOnce_append hword]
  simp only [trim_trimStart, trim_dropEndWhile]

lemma directive?_of_not_mem {piece : List Char} (h : '=' ∉ piece) :
    directive? piece =
      if trim piece = [] then none else some ⟨.ofList (lowerAscii (trim piece)), none⟩ := by
  have htrim : '=' ∉ trim piece := fun hmem =>
    h ((List.dropWhile_suffix _).subset ((prefix_dropEndWhile _ _).subset hmem))
  rw [directive?, Directive.ofText, splitOnce_of_not_mem htrim]

/-! ### Edits -/

def IsPadding (cs : List Char) : Prop :=
  ∀ c ∈ cs, c = ' ' ∨ c = '\t'

instance (cs : List Char) : Decidable (IsPadding cs) :=
  List.decidableBAll _ cs

def names (name : String) (piece : List Char) : Bool :=
  (directive? piece).any (·.name = name)

/-- An edit of the pieces of a header, and how many directives come in by it that count for
nothing. -/
inductive Edit : List (List Char) → List (List Char) → Nat → Prop
  /-- Directives are moved, those of one name staying in order. -/
  | reorder {ps qs : List (List Char)} (h : ps.Perm qs)
      (hn : ∀ name, ps.filter (names name) = qs.filter (names name)) : Edit ps qs 0
  /-- The letters of a name, which ends before the equals sign, change their case. -/
  | recase (before after : List (List Char)) {word word' rest : List Char} (h : '=' ∉ word)
      (hr : ∀ c, rest.head? = some c → c = '=') (hc : lowerAscii word = lowerAscii word') :
      Edit (before ++ (word ++ rest) :: after) (before ++ (word' ++ rest) :: after) 0
  /-- A blank piece comes in. -/
  | blank (before after : List (List Char)) {piece : List Char}
      (h : ∀ c ∈ piece, isBlank c = true) : Edit (before ++ after) (before ++ piece :: after) 0
  /-- Spaces and tabs come in at the ends of a piece. -/
  | pad (before after : List (List Char)) (piece : List Char) {left right : List Char}
      (hl : IsPadding left) (hr : IsPadding right) :
      Edit (before ++ piece :: after) (before ++ (left ++ piece ++ right) :: after) 0
  /-- Spaces and tabs come in around the first equals sign of a piece. -/
  | padEquals (before after : List (List Char)) {word value left right : List Char}
      (h : '=' ∉ word) (hl : IsPadding left) (hr : IsPadding right) :
      Edit (before ++ (word ++ '=' :: value) :: after)
        (before ++ (word ++ left ++ '=' :: (right ++ value)) :: after) 0
  /-- A directive comes in whose name means nothing. -/
  | unknown (before after : List (List Char)) {piece : List Char} {d : Directive}
      (h : directive? piece = some d) (hn : d.name ∉ knownNames) :
      Edit (before ++ after) (before ++ piece :: after) 1
  /-- A directive comes in behind another of its name. -/
  | again (before after : List (List Char)) {piece earlier : List Char} {d e : Directive}
      (h : directive? piece = some d) (he : directive? earlier = some e) (hm : earlier ∈ before)
      (hn : d.name = e.name) : Edit (before ++ after) (before ++ piece :: after) 1

lemma IsPadding.isBlank {cs : List Char} (h : IsPadding cs) : ∀ c ∈ cs, isBlank c = true := by
  intro c hc
  rcases h c hc with rfl | rfl <;> decide

lemma first?_filterMap (name : String) (ps : List (List Char)) :
    first? name (ps.filterMap directive?) =
      ((ps.filter (names name)).filterMap directive?).head? := by
  rw [first?, ← List.head?_filter, List.filter_filterMap, List.filterMap_filter]
  congr 2
  funext piece
  unfold names
  cases directive? piece with
  | none => rfl
  | some d => by_cases hd : d.name = name <;> simp [hd]

lemma filterMap_respelled {piece piece' : List Char} (h : directive? piece = directive? piece')
    (before after : List (List Char)) :
    (before ++ piece :: after).filterMap directive? =
      (before ++ piece' :: after).filterMap directive? := by
  simp only [List.filterMap_append, List.filterMap_cons, h]

lemma askSame_insert {d : Directive} (h : d.name ∈ knownNames → d.name ∈ ds.map Directive.name)
    (es : List Directive) : AskSame (ds ++ es) (ds ++ d :: es) := by
  intro name hname
  simp only [first?, List.find?_append, List.find?_cons]
  split
  · next hd =>
    -- the name has come before, so the search ends there
    obtain rfl : d.name = name := of_decide_eq_true hd
    have hfirst : first? d.name ds ≠ none := fun hnone => first?_eq_none.mp hnone (h hname)
    obtain ⟨e, he⟩ := Option.ne_none_iff_exists'.mp hfirst
    rw [first?] at he
    rw [he]
    rfl
  · rfl

lemma lowerAscii_eq_nil {cs : List Char} : lowerAscii cs = [] ↔ cs = [] :=
  List.map_eq_nil_iff

lemma equals_mem_lowerAscii {cs : List Char} : '=' ∈ lowerAscii cs ↔ '=' ∈ cs := by
  rw [lowerAscii, List.mem_map]
  constructor
  · rintro ⟨c, hc, hlower⟩
    rcases toLower_cases c with ⟨hsame, -⟩ | ⟨hcapital, hsmall⟩
    · rwa [← hlower, hsame]
    · rw [hlower] at hsmall
      exact absurd hsmall (by have : '='.toNat = 61 := rfl; omega)
  · exact fun h => ⟨'=', h, rfl⟩

lemma directive?_recase {word word' rest : List Char} (h : '=' ∉ word)
    (hr : ∀ c, rest.head? = some c → c = '=') (hc : lowerAscii word = lowerAscii word') :
    directive? (word ++ rest) = directive? (word' ++ rest) := by
  have hlower : lowerAscii (trim word) = lowerAscii (trim word') := by
    rw [← trim_lowerAscii, hc, trim_lowerAscii]
  have hword' : '=' ∉ word' := by
    rwa [← equals_mem_lowerAscii, ← hc, equals_mem_lowerAscii]
  cases rest with
  | cons c value =>
    obtain rfl := hr c rfl
    rw [directive?_of_equals h, directive?_of_equals hword', hlower]
  | nil =>
    have hnil : trim word = [] ↔ trim word' = [] := by
      rw [← lowerAscii_eq_nil, hlower, lowerAscii_eq_nil]
    rw [List.append_nil, List.append_nil, directive?_of_not_mem h, directive?_of_not_mem hword',
      hlower]
    simp only [hnil]

lemma names_eq {piece : List Char} {d : Directive} (h : directive? piece = some d)
    (name : String) : names name piece = decide (d.name = name) := by
  rw [names, h, Option.any_some]

lemma Edit.swap (before after : List (List Char)) {p q : List Char} {d e : Directive}
    (hp : directive? p = some d) (hq : directive? q = some e) (hn : d.name ≠ e.name) :
    Edit (before ++ p :: q :: after) (before ++ q :: p :: after) 0 := by
  refine .reorder ((List.Perm.swap q p after).append_left before) fun name => ?_
  have hnot : ¬(d.name = name ∧ e.name = name) := fun h => hn (h.1.trans h.2.symm)
  simp only [List.filter_append, List.filter_cons, names_eq hp, names_eq hq, decide_eq_true_eq]
  by_cases hd : d.name = name
  · have he : e.name ≠ name := fun he => hnot ⟨hd, he⟩
    simp only [hd, he, if_true, if_false]
  · simp only [hd, if_false]

variable {ps qs : List (List Char)} {n : Nat}

theorem Edit.askSame_and_length (h : Edit ps qs n) :
    AskSame (ps.filterMap directive?) (qs.filterMap directive?) ∧
      (qs.filterMap directive?).length = (ps.filterMap directive?).length + n := by
  cases h with
  | reorder h hn =>
    refine ⟨fun name _ => ?_, (h.filterMap directive?).length_eq.symm⟩
    rw [first?_filterMap, first?_filterMap, hn name]
  | recase before after h hr hc =>
    rw [filterMap_respelled (directive?_recase h hr hc)]
    exact ⟨.refl _, rfl⟩
  | @blank before after piece h =>
    have hnone : directive? piece = none := if_pos (trim_eq_nil h)
    simp only [List.filterMap_append, List.filterMap_cons_none hnone]
    exact ⟨.refl _, rfl⟩
  | @pad before after piece left right hl hr =>
    have htrim : trim (left ++ piece ++ right) = trim piece := by
      rw [trim_append_right hr.isBlank, trim_append_left hl.isBlank]
    rw [filterMap_respelled (directive?_congr htrim)]
    exact ⟨.refl _, rfl⟩
  | @padEquals before after word value left right h hl hr =>
    have hleft : '=' ∉ left := fun hmem => absurd (hl _ hmem) (by decide)
    have hsame : directive? (word ++ '=' :: value) =
        directive? (word ++ left ++ '=' :: (right ++ value)) := by
      rw [directive?_of_equals h, directive?_of_equals (by simp [h, hleft]),
        trim_append_right hl.isBlank, trim_append_left hr.isBlank]
    rw [filterMap_respelled hsame]
    exact ⟨.refl _, rfl⟩
  | unknown before after h hn =>
    simp only [List.filterMap_append, List.filterMap_cons_some h, List.length_append,
      List.length_cons]
    exact ⟨askSame_insert (fun hknown => absurd hknown hn) _, rfl⟩
  | @again before after piece earlier d e h he hm hn =>
    have hmem : e ∈ before.filterMap directive? := List.mem_filterMap.mpr ⟨earlier, hm, he⟩
    simp only [List.filterMap_append, List.filterMap_cons_some h, List.length_append,
      List.length_cons]
    exact ⟨askSame_insert (fun _ => hn ▸ List.mem_map_of_mem hmem) _, rfl⟩

/-- A header after any number of edits, and how many directives have come in that count for
nothing. -/
inductive Edited (raw : String) : String → Nat → Prop
  | none : Edited raw raw 0
  | edit {raw' raw'' : String} {m n : Nat} (h : Edited raw raw' m)
      (e : Edit (pieces raw') (pieces raw'') n) : Edited raw raw'' (m + n)

lemma Edited.askSame_and_length (h : Edited raw raw' n) :
    AskSame (directives raw) (directives raw') ∧
      (directives raw').length = (directives raw).length + n := by
  induction h with
  | none => exact ⟨.refl _, rfl⟩
  | @edit raw' raw'' m n _ e ih =>
    obtain ⟨hsame, hlength⟩ := e.askSame_and_length
    rw [← directives_eq, ← directives_eq] at hsame hlength
    refine ⟨ih.1.trans hsame, ?_⟩
    rw [hlength, ih.2, Nat.add_assoc]

/-- What a header is refused for rests on the first directive of each name that means something,
whether it asks to join the list under some policy or to leave it. So it stays the same, finding by
finding, however the header is edited, and each further directive that comes in is warned of once. -/
theorem verdict_rests_on_firsts :
    (∀ raw raw' : String, (∀ name ∈ knownNames,
        first? name (directives raw) = first? name (directives raw')) →
      ∀ policy, (preloadable (some raw') policy).errors = (preloadable (some raw) policy).errors ∧
        (removable (some raw')).errors = (removable (some raw)).errors) ∧
    ∀ (raw raw' : String) (extra : Nat), Edited raw raw' extra → ∀ policy,
      (preloadable (some raw') policy).errors = (preloadable (some raw) policy).errors ∧
      (removable (some raw')).errors = (removable (some raw)).errors ∧
      (preloadable (some raw') policy).warnings.length =
        (preloadable (some raw) policy).warnings.length + extra ∧
      (removable (some raw')).warnings.length = (removable (some raw)).warnings.length + extra := by
  have hfirsts : ∀ raw raw' : String, AskSame (directives raw) (directives raw') → ∀ policy,
      (preloadable (some raw') policy).errors = (preloadable (some raw) policy).errors ∧
        (removable (some raw')).errors = (removable (some raw)).errors := by
    intro raw raw' h policy
    obtain ⟨hjoin, hleave⟩ := h.errors policy
    exact ⟨hjoin.symm, hleave.symm⟩
  refine ⟨hfirsts, fun raw raw' extra h policy => ?_⟩
  obtain ⟨hsame, hlength⟩ := h.askSame_and_length
  obtain ⟨hjoin, hleave⟩ := hfirsts raw raw' hsame policy
  have hwarnings := hsame.length_warnings
  rw [hlength] at hwarnings
  obtain ⟨hw, hw'⟩ := warnings_verdict raw policy
  obtain ⟨hx, hx'⟩ := warnings_verdict raw' policy
  refine ⟨hjoin, hleave, ?_, ?_⟩
  · rw [hw, hx]
    omega
  · rw [hw', hx']
    omega

theorem respelled_header :
    let raw := "preload;max-age=31536000"
    let raw' := "MAX-AGE\t=31536000;foo; ;preload;max-age=0"
    Edited raw raw' 2 ∧
      (preloadable (some raw') .bulk1Year).errors = (preloadable (some raw) .bulk1Year).errors ∧
      (removable (some raw')).warnings.length = (removable (some raw)).warnings.length + 2 := by
  intro raw raw'
  let age := "max-age=31536000".toList
  let spaced := "MAX-AGE\t=31536000".toList
  have hmove : Edit (pieces "preload;max-age=31536000") (pieces "max-age=31536000;preload") 0 :=
    @Edit.swap [] [] "preload".toList age _ _ rfl rfl (by decide)
  have hcase : Edit (pieces "max-age=31536000;preload") (pieces "MAX-AGE=31536000;preload") 0 :=
    @Edit.recase [] ["preload".toList] "max-age".toList "MAX-AGE".toList "=31536000".toList
      (by decide) (by rintro _ ⟨⟩; rfl) (by decide)
  have htab : Edit (pieces "MAX-AGE=31536000;preload") (pieces "MAX-AGE\t=31536000;preload") 0 :=
    @Edit.padEquals [] ["preload".toList] "MAX-AGE".toList "31536000".toList ['\t'] []
      (by decide) (by decide) (by decide)
  have hfoo : Edit (pieces "MAX-AGE\t=31536000;preload")
      (pieces "MAX-AGE\t=31536000;foo;preload") 1 :=
    @Edit.unknown [spaced] ["preload".toList] "foo".toList _ rfl (by decide)
  have hblank : Edit (pieces "MAX-AGE\t=31536000;foo;preload")
      (pieces "MAX-AGE\t=31536000;foo; ;preload") 0 :=
    @Edit.blank [spaced, "foo".toList] ["preload".toList] [' '] (List.forall_mem_singleton.mpr rfl)
  have hzero : Edit (pieces "MAX-AGE\t=31536000;foo; ;preload")
      (pieces "MAX-AGE\t=31536000;foo; ;preload;max-age=0") 1 :=
    @Edit.again [spaced, "foo".toList, [' '], "preload".toList] [] "max-age=0".toList spaced _ _
      rfl rfl (by simp) (by decide)
  have hedited : Edited raw raw' 2 :=
    .edit (.edit (.edit (.edit (.edit (.edit .none hmove) hcase) htab) hfoo) hblank) hzero
  obtain ⟨hjoin, -, -, hleave⟩ := verdict_rests_on_firsts.2 raw raw' 2 hedited .bulk1Year
  exact ⟨hedited, hjoin, hleave⟩

end HstsPreload.Header
