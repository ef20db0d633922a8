import HstsPreload.DomainName
import HstsPreload.Proofs.Addresses
import HstsPreload.Proofs.Characters
import HstsPreload.Proofs.Routing
import HstsPreload.Proofs.Trimming

/-!
# Normal forms of domain names

The key of a record is the one way in which a host is written, in ASCII and without capitals. It is
its own normal form, unless it ends in a full stop or has a label too long to be read as punycode.
So the records that requests leave behind are about different hosts.
-/

namespace HstsPreload

open Text

namespace Text

variable {p : Char → Bool} {cs : List Char} {bytes : List UInt8}

lemma percentDecode_append (h : 37 ∉ bytes) (rest : List UInt8) :
    percentDecode (bytes ++ rest) = bytes ++ percentDecode rest := by
  induction bytes with
  | nil => rfl
  | cons b bytes ih =>
    rw [List.mem_cons, not_or] at h
    rw [List.cons_append, percentDecode, ih h.2]
    · rfl
    · exact fun _ _ _ hb => (h.1 hb.symm).elim

lemma exists_of_getLast?_splitAt {sep : Char} (h : (splitAt sep cs).getLast? = some []) :
    cs = [] ∨ cs.getLast? = some sep := by
  obtain ⟨front, hsplit⟩ := List.getLast?_eq_some_iff.mp h
  have hjoin := joinWith_splitAt sep cs
  by_cases hnil : front = []
  · rw [hsplit, hnil] at hjoin
    exact .inl hjoin.symm
  · rw [hsplit, joinWith_concat_nil hnil] at hjoin
    exact .inr (hjoin ▸ List.getLast?_concat)

end Text

namespace Host

variable {cs ascii : List Char} {host host' : Host} {c : Char}

lemma not_isHostChar_bracket : ¬IsHostChar '[' := by
  decide

lemma percent_notMem_encode (h : ∀ c ∈ cs, IsHostChar c) : 37 ∉ Utf8.encode cs := by
  intro hmem
  obtain ⟨c, hc, hmem⟩ := List.mem_flatMap.mp hmem
  obtain ⟨hascii, -, hallowed⟩ := h c hc
  have hbyte : Utf8.encodeChar c = [.ofNat c.toNat] := if_pos hascii
  rw [hbyte, List.mem_singleton] at hmem
  have hcode : (37 : UInt8).toNat = c.toNat :=
    (congrArg UInt8.toNat hmem).trans (Utf8.toNat_byte (by omega))
  obtain rfl : c = '%' := Char.toNat_inj.mp hcode.symm
  revert hallowed
  decide

lemma decoded_append (h : ∀ c ∈ cs, IsHostChar c) (more decoded : List Char)
    (hmore : percentDecode (Utf8.encode more) = Utf8.encode decoded) :
    Utf8.decodeLossy (percentDecode (Utf8.encode (cs ++ more))) = cs ++ decoded := by
  have hencode : ∀ rest, Utf8.encode (cs ++ rest) = Utf8.encode cs ++ Utf8.encode rest :=
    fun rest => List.flatMap_append
  rw [hencode, percentDecode_append (percent_notMem_encode h), hmore, ← hencode,
    Utf8.decodeLossy_encode]

lemma ofName_of_isHostChar (h : ∀ c ∈ cs, IsHostChar c) :
    ofName cs = (toAscii cs).elim (.error .invalidName) ofAscii := by
  have hdecoded := decoded_append h [] [] rfl
  rw [List.append_nil] at hdecoded
  unfold ofName
  rw [hdecoded]
  cases toAscii cs <;> rfl

lemma parse_eq_ofName (h : cs.head? ≠ some '[') : parse cs = ofName cs := by
  unfold parse
  split
  · exact (h rfl).elim
  · rfl

lemma parse_of_isHostChar (h : ∀ c ∈ cs, IsHostChar c) : parse cs = ofName cs :=
  parse_eq_ofName fun hhead => not_isHostChar_bracket (h '[' (List.mem_of_mem_head? hhead))

/-- A host as it can be. -/
def WellFormed : Host → Prop
  | .name ascii =>
    (∃ cs, toAscii cs = some ascii) ∧ ascii ≠ [] ∧ Ipv4.endsInNumber ascii = false
  | .ipv4 a => a.bits < 2 ^ 32
  | .ipv6 a => a.IsAddress

lemma wellFormed_of_parse (h : parse cs = .ok host) : host.WellFormed := by
  unfold parse at h
  split at h
  · unfold ofBracketed at h
    split_ifs at h
    split at h
    · next a ha =>
      cases h
      exact Ipv6.isAddress_of_ofText? ha
    · cases h
  · unfold ofName at h
    split at h
    · next ascii hascii =>
      unfold ofAscii at h
      split_ifs at h with hnil hnumber
      · split at h
        · next a ha =>
          cases h
          exact Ipv4.bits_lt ha
        · cases h
      · cases h
        exact ⟨⟨_, hascii⟩, hnil, Bool.eq_false_of_not_eq_true hnumber⟩
    · cases h

lemma toAscii_ipv4 (a : Ipv4) : toAscii a.text = some a.text := by
  rw [Ipv4.text_eq]
  apply toAscii_of_isDigit
  · simp [Ipv4.bytes]
  · intro piece hpiece c hc
    obtain ⟨n, -, rfl⟩ := List.mem_map.mp hpiece
    exact isDigit_of_mem_decimalText hc

lemma isHostChar_ipv4 {a : Ipv4} : ∀ c ∈ a.text, IsHostChar c :=
  isHostChar_toAscii (toAscii_ipv4 a)

/-- The characters of keys. -/
structure IsKeyChar (c : Char) : Prop where
  visible : 32 < c.toNat
  ascii : c.toNat < 128
  lower : ¬(0x41 ≤ c.toNat ∧ c.toNat ≤ 0x5a)

instance (c : Char) : Decidable (IsKeyChar c) :=
  decidable_of_iff (32 < c.toNat ∧ c.toNat < 128 ∧ ¬(0x41 ≤ c.toNat ∧ c.toNat ≤ 0x5a))
    ⟨fun ⟨hvisible, hascii, hlower⟩ => ⟨hvisible, hascii, hlower⟩,
      fun ⟨hvisible, hascii, hlower⟩ => ⟨hvisible, hascii, hlower⟩⟩

lemma IsHostChar.isKeyChar (h : IsHostChar c) : IsKeyChar c := by
  refine ⟨?_, h.ascii, h.lower⟩
  by_contra hlow
  have hforbidden : isForbidden c = true := by
    simp [isForbidden, Nat.not_lt.mp hlow]
  rw [h.allowed] at hforbidden
  cases hforbidden

lemma isKeyChar_of_mem_text (h : host.WellFormed) : ∀ c ∈ host.text, IsKeyChar c := by
  intro c hc
  cases host with
  | name ascii =>
    obtain ⟨⟨cs, hcs⟩, -⟩ := h
    exact (isHostChar_toAscii hcs c hc).isKeyChar
  | ipv4 a => exact (isHostChar_ipv4 c hc).isKeyChar
  | ipv6 a =>
    have hmem : c = '[' ∨ c ∈ a.text ∨ c = ']' := by simpa [text] using hc
    rcases hmem with rfl | hc | rfl
    · decide
    · rcases Ipv6.isHostChar_of_mem_text hc with rfl | hdigit
      · decide
      · exact (isHostChar_of_isDigit hdigit).isKeyChar
    · decide

lemma text_ne_nil (h : host.WellFormed) : host.text ≠ [] := by
  cases host with
  | name ascii => exact h.2.1
  | ipv4 a =>
    intro hnil
    have hends := Ipv4.endsInNumber_text a
    rw [show a.text = [] from hnil] at hends
    cases hends
  | ipv6 a => exact List.cons_ne_nil _ _

lemma readable_ipv6 (a : Ipv6) : Readable (text (.ipv6 a)) := by
  intro label hlabel hmark
  have hstop : '.' ∉ text (.ipv6 a) := by
    intro hmem
    have hmem : '.' ∈ a.text := by simpa [text] using hmem
    rcases Ipv6.isHostChar_of_mem_text hmem with hcolon | hdigit
    · revert hcolon
      decide
    · exact hdigit.ne_stop rfl
  rw [splitAt_of_not_mem hstop, List.mem_singleton] at hlabel
  rw [hlabel, text] at hmark
  cases List.cons_prefix_cons.mp hmark |>.1

theorem parse_text (h : host.WellFormed) (hreadable : Readable host.text) :
    parse host.text = .ok host := by
  cases host with
  | name ascii =>
    obtain ⟨⟨cs, hcs⟩, hnil, hnumber⟩ := h
    have hchars := isHostChar_toAscii hcs
    have hagain : toAscii ascii = some ascii := (toAscii_toAscii hcs).mpr hreadable
    unfold text
    rw [parse_of_isHostChar hchars, ofName_of_isHostChar hchars, hagain, Option.elim_some, ofAscii,
      if_neg hnil, hnumber, if_neg Bool.false_ne_true]
  | ipv4 a =>
    have hnil : (Host.ipv4 a).text ≠ [] := text_ne_nil h
    unfold text
    rw [parse_of_isHostChar isHostChar_ipv4, ofName_of_isHostChar isHostChar_ipv4, toAscii_ipv4,
      Option.elim_some, ofAscii, if_neg (show a.text ≠ [] from hnil), Ipv4.endsInNumber_text,
      if_pos rfl, Ipv4.ofName?_text h]
  | ipv6 a =>
    change ofBracketed (a.text ++ [']']) = _
    rw [ofBracketed, List.getLast?_concat, if_pos rfl, List.dropLast_concat, Ipv6.ofText?_text h]

lemma readable_of_parse (h : host.WellFormed) (hparse : parse host.text = .ok host') :
    Readable host.text := by
  cases host with
  | name ascii =>
    obtain ⟨⟨cs, hcs⟩, -⟩ := h
    have hchars := isHostChar_toAscii hcs
    unfold text at hparse ⊢
    rw [parse_of_isHostChar hchars, ofName_of_isHostChar hchars] at hparse
    cases hagain : toAscii ascii with
    | none =>
      rw [hagain] at hparse
      cases hparse
    | some again =>
      rw [toAscii_eq_self hchars hagain] at hagain
      exact (toAscii_toAscii hcs).mp hagain
  | ipv4 a => exact (toAscii_toAscii (toAscii_ipv4 a)).mp (toAscii_ipv4 a)
  | ipv6 a => exact readable_ipv6 a

lemma eq_of_parse_name (hcs : ∀ c ∈ cs, IsHostChar c) (h : parse cs = .ok (.name ascii)) :
    ascii = cs := by
  rw [parse_of_isHostChar hcs, ofName_of_isHostChar hcs] at h
  cases hagain : toAscii cs with
  | none =>
    rw [hagain] at h
    cases h
  | some again =>
    rw [hagain, Option.elim_some, ofAscii] at h
    split_ifs at h
    · split at h <;> cases h
    · cases h
      exact toAscii_eq_self hcs hagain

lemma exists_name_of_getLast? (h : host.text.getLast? = some '.') : ∃ ascii, host = .name ascii := by
  cases host with
  | name ascii => exact ⟨ascii, rfl⟩
  | ipv4 a => exact (Ipv4.getLast?_text a h).elim
  | ipv6 a =>
    have hlast : (text (.ipv6 a)).getLast? = some ']' := List.getLast?_concat
    rw [hlast] at h
    cases h

lemma toAscii_append_stop (hcs : ∀ c ∈ cs, IsHostChar c) (h : toAscii cs = some cs) :
    toAscii (cs ++ ['.']) = some (cs ++ ['.']) := by
  obtain ⟨name, labels, hname, hlabels, hdirections, hjoin⟩ := of_toAscii h
  obtain rfl := Option.some.inj ((mapped_of_isHostChar hcs).symm.trans hname)
  have hchars : ∀ c ∈ cs ++ ['.'], IsHostChar c := by
    intro c hc
    rcases List.mem_append.mp hc with hc | hc
    · exact hcs c hc
    · rw [List.mem_singleton.mp hc]
      decide
  have hmore : List.Forall₂ (fun piece l => Label.ofMapped piece = some l)
      (splitAt '.' (cs ++ ['.'])) (labels ++ [⟨[], []⟩]) := by
    rw [splitAt_append]
    exact List.rel_append hlabels (.cons rfl .nil)
  have hempty : directionsAgree (labels ++ [⟨[], []⟩]) = true := by
    simpa [directionsAgree, readsOneWay] using hdirections
  have hne : labels.map Label.ascii ≠ [] := by
    intro hnil
    rw [List.map_eq_nil_iff.mp hnil, List.forall₂_nil_right_iff] at hlabels
    exact splitAt_ne_nil '.' cs hlabels
  rw [toAscii_of (mapped_of_isHostChar hchars) hmore hempty, List.map_append, List.map_singleton,
    joinWith_concat_nil hne, ← hjoin]

lemma endsInNumber_append_stop (hnil : cs ≠ []) (hclosed : cs.getLast? ≠ some '.') :
    Ipv4.endsInNumber (cs ++ ['.']) = Ipv4.endsInNumber cs := by
  have hlast : (splitAt '.' cs).getLast? ≠ some [] := by
    intro hlast
    rcases exists_of_getLast?_splitAt hlast with h | h
    · exact hnil h
    · exact hclosed h
  have hparts : Ipv4.parts (cs ++ ['.']) = Ipv4.parts cs := by
    unfold Ipv4.parts
    dsimp only
    rw [splitAt_append, splitAt, List.getLast?_concat, if_pos rfl, List.dropLast_concat,
      if_neg hlast]
  unfold Ipv4.endsInNumber
  rw [hparts]

theorem text_injective (h : host.WellFormed) (h' : host'.WellFormed)
    (htext : host.text = host'.text) : host = host' := by
  have hname : ∀ {ascii : List Char} {a : Ipv4}, (Host.name ascii).WellFormed →
      ascii ≠ a.text := by
    rintro ascii a ⟨-, -, hnumber⟩ rfl
    rw [Ipv4.endsInNumber_text] at hnumber
    cases hnumber
  have hbracket : ∀ {cs : List Char} {a : Ipv6}, (∀ c ∈ cs, IsHostChar c) →
      cs ≠ text (.ipv6 a) := by
    rintro cs a hcs rfl
    exact not_isHostChar_bracket (hcs '[' List.mem_cons_self)
  cases host with
  | name ascii =>
    cases host' with
    | name ascii' => exact congrArg Host.name htext
    | ipv4 a' => exact (hname h htext).elim
    | ipv6 a' =>
      obtain ⟨⟨cs, hcs⟩, -⟩ := h
      exact (hbracket (isHostChar_toAscii hcs) htext).elim
  | ipv4 a =>
    cases host' with
    | name ascii' => exact (hname h' htext.symm).elim
    | ipv4 a' =>
      have hread : some a = some a' := by
        rw [← Ipv4.ofName?_text h, ← Ipv4.ofName?_text h']
        exact congrArg Ipv4.ofName? htext
      rw [Option.some.inj hread]
    | ipv6 a' => exact (hbracket isHostChar_ipv4 htext).elim
  | ipv6 a =>
    cases host' with
    | name ascii' =>
      obtain ⟨⟨cs, hcs⟩, -⟩ := h'
      exact (hbracket (isHostChar_toAscii hcs) htext.symm).elim
    | ipv4 a' => exact (hbracket isHostChar_ipv4 htext.symm).elim
    | ipv6 a' =>
      have hinside : a.text = a'.text := List.append_cancel_right (List.cons.inj htext).2
      have hread : some a = some a' := by
        rw [← Ipv6.ofText?_text h, ← Ipv6.ofText?_text h', hinside]
      rw [Option.some.inj hread]

end Host

namespace DomainName

open Host

variable {raw raw' key key' : String}

/-- The text without blanks around it and full stops after it. -/
def core (raw : String) : List Char :=
  dropEndWhile (· = '.') (trim raw.toList)

/-- The host that a text names. -/
def host? (raw : String) : Except Host.Fault Host :=
  Host.parse (core raw)

/-- What it takes to be read back: no full stop at the end, and no label too long to be read. -/
structure IsReadable (key : String) : Prop where
  closed : key.toList.getLast? ≠ some '.'
  labels : Readable key.toList

lemma lowerAscii_text {host : Host} (h : host.WellFormed) : lowerAscii host.text = host.text := by
  have hlower : ∀ c ∈ host.text, c.toLower = c := by
    intro c hc
    have hcapital := (isKeyChar_of_mem_text h c hc).lower
    rcases toLower_cases c with ⟨hsame, -⟩ | ⟨hupper, -⟩
    · exact hsame
    · exact (hcapital hupper).elim
  exact (List.map_congr_left hlower).trans (List.map_id _)

lemma parse_nil : Host.parse [] = .error .empty := by
  have hascii : toAscii [] = some [] :=
    toAscii_of_isDigit (List.cons_ne_nil [] []) (by simp)
  change ofName [] = _
  rw [ofName_of_isHostChar (by simp), hascii]
  rfl

lemma normalize_eq (raw : String) : normalize raw =
    if core raw = [] then .error .empty
    else
      match host? raw with
      | .ok host => .ok (.ofList (lowerAscii host.text))
      | .error cause => .error (.invalid raw cause) :=
  rfl

lemma normalize_eq_ok :
    normalize raw = .ok key ↔ ∃ host, host? raw = .ok host ∧ key = .ofList host.text := by
  rw [normalize_eq]
  split_ifs with hnil
  · simp [host?, hnil, parse_nil]
  · cases hparse : host? raw with
    | error fault => simp
    | ok host =>
      have hlower := lowerAscii_text (wellFormed_of_parse hparse)
      simp [hlower, eq_comm]

lemma of_normalize (h : normalize raw = .ok key) :
    ∃ host, host? raw = .ok host ∧ host.WellFormed ∧ key.toList = host.text := by
  obtain ⟨host, hhost, rfl⟩ := normalize_eq_ok.mp h
  exact ⟨host, hhost, wellFormed_of_parse hhost, String.toList_ofList⟩

lemma core_of_isKeyChar (hchars : ∀ c ∈ key.toList, IsKeyChar c) :
    core key = dropEndWhile (· = '.') key.toList := by
  rw [core, trim_eq_self]
  intro c hc
  have hvisible := (hchars c hc).visible
  have hascii := (hchars c hc).ascii
  simp only [isBlank, Bool.or_eq_false_iff, Bool.and_eq_false_iff, decide_eq_false_iff_not,
    beq_eq_false_iff_ne]
  omega

lemma dropEndWhile_closed {cs : List Char} (h : cs.getLast? ≠ some '.') :
    dropEndWhile (· = '.') cs = cs := by
  refine dropEndWhile_eq_self fun c hc => ?_
  rw [decide_eq_false_iff_not]
  rintro rfl
  exact h hc

/-- A key that can be read back names the host that it was made for. -/
theorem host?_key (h : normalize raw = .ok key) (hreadable : IsReadable key) :
    host? key = host? raw := by
  obtain ⟨host, hhost, hwell, htext⟩ := of_normalize h
  have hchars : ∀ c ∈ key.toList, IsKeyChar c := htext ▸ isKeyChar_of_mem_text hwell
  have hcore : core key = key.toList :=
    (core_of_isKeyChar hchars).trans (dropEndWhile_closed hreadable.closed)
  have hlabels : Readable host.text := htext ▸ hreadable.labels
  rw [hhost, host?, hcore, htext, parse_text hwell hlabels]

theorem normalize_key (h : normalize raw = .ok key) :
    normalize key = .ok key ↔ IsReadable key := by
  obtain ⟨host, hhost, hwell, htext⟩ := of_normalize h
  have hchars : ∀ c ∈ key.toList, IsKeyChar c := htext ▸ isKeyChar_of_mem_text hwell
  constructor
  · intro hagain
    obtain ⟨host', hhost', hwell', htext'⟩ := of_normalize hagain
    have hcore := core_of_isKeyChar hchars
    have hclosed : key.toList.getLast? ≠ some '.' := by
      intro hlast
      -- the full stop is dropped before the key is read, and what is read is written without it
      rw [htext'] at hlast
      obtain ⟨ascii, rfl⟩ := exists_name_of_getLast? hlast
      obtain ⟨⟨cs, hcs⟩, -⟩ := hwell'
      have hsame : ascii = core key := by
        refine eq_of_parse_name (fun c hc => isHostChar_toAscii hcs c ?_) hhost'
        rw [hcore] at hc
        have hmem := (prefix_dropEndWhile _ _).subset hc
        rwa [htext'] at hmem
      change ascii.getLast? = some '.' at hlast
      rw [hsame, hcore] at hlast
      exact absurd (getLast?_dropEndWhile hlast) (by decide)
    refine ⟨hclosed, ?_⟩
    rw [dropEndWhile_closed hclosed, htext] at hcore
    rw [host?, hcore] at hhost'
    exact htext ▸ readable_of_parse hwell hhost'
  · intro hreadable
    rw [normalize_eq_ok, host?_key h hreadable]
    exact normalize_eq_ok.mp h

theorem key_eq_iff (h : normalize raw = .ok key) :
    normalize raw' = .ok key ↔ host? raw' = host? raw := by
  obtain ⟨host, hhost, hwell, htext⟩ := of_normalize h
  constructor
  · intro h'
    obtain ⟨host', hhost', hwell', htext'⟩ := of_normalize h'
    rw [hhost, hhost', text_injective hwell' hwell (htext'.symm.trans htext)]
  · intro hsame
    rw [normalize_eq_ok, hsame]
    exact normalize_eq_ok.mp h

lemma host?_of_isDigit {pieces : List (List Char)} {text : List Char}
    (htext : joinWith '.' pieces = text) (h : ∀ piece ∈ pieces, ∀ c ∈ piece, Punycode.IsDigit c)
    (hnil : text ≠ []) (hclosed : text.getLast? ≠ some '.')
    (hnumber : Ipv4.endsInNumber text = false) :
    host? (.ofList text) = .ok (.name text) := by
  have hne : pieces ≠ [] := by
    rintro rfl
    exact hnil htext.symm
  have hascii : toAscii text = some text := htext ▸ toAscii_of_isDigit hne h
  have hchars := isHostChar_toAscii hascii
  have hcore : core (.ofList text) = text := by
    rw [core_of_isKeyChar, String.toList_ofList, dropEndWhile_closed hclosed]
    rw [String.toList_ofList]
    exact fun c hc => (hchars c hc).isKeyChar
  have hread : Readable text := (toAscii_toAscii hascii).mp hascii
  have hwell : (Host.name text).WellFormed := ⟨⟨text, hascii⟩, hnil, hnumber⟩
  rw [host?, hcore]
  exact parse_text hwell hread

/-- A host name that can be read back has a second key, which ends in a full stop: one that is
escaped is kept. Its normal form is the first one. -/
theorem normalize_escaped_stop {ascii : List Char} (h : normalize raw = .ok key)
    (hname : host? raw = .ok (.name ascii)) (hreadable : IsReadable key) :
    normalize (key ++ "%2e") = .ok (key ++ ".") ∧ normalize (key ++ ".") = .ok key := by
  obtain ⟨host, hhost, hwell, htext⟩ := of_normalize h
  obtain rfl := Except.ok.inj (hhost.symm.trans hname)
  change key.toList = ascii at htext
  obtain ⟨⟨cs, hcs⟩, hnil, hnumber⟩ := hwell
  have hchars := isHostChar_toAscii hcs
  have hclosed : ascii.getLast? ≠ some '.' := htext ▸ hreadable.closed
  have hself : toAscii ascii = some ascii := (toAscii_toAscii hcs).mpr (htext ▸ hreadable.labels)
  have hcore : ∀ (more : String) (cs : List Char), more.toList = cs → (∀ c ∈ cs, IsKeyChar c) →
      core (key ++ more) = dropEndWhile (· = '.') (ascii ++ cs) := by
    rintro more cs rfl hmore
    rw [core_of_isKeyChar, String.toList_append, htext]
    intro c hc
    rw [String.toList_append, htext, List.mem_append] at hc
    rcases hc with hc | hc
    · exact (hchars c hc).isKeyChar
    · exact hmore c hc
  constructor
  · have hhead : (ascii ++ ['%', '2', 'e']).head? ≠ some '[' := by
      cases ascii with
      | nil => decide
      | cons c cs =>
        intro hc
        exact not_isHostChar_bracket (Option.some.inj hc ▸ hchars c List.mem_cons_self)
    have hescaped : core (key ++ "%2e") = ascii ++ ['%', '2', 'e'] := by
      rw [hcore "%2e" ['%', '2', 'e'] rfl (forall_mem_of_all (by decide))]
      apply dropEndWhile_closed
      simp
    have hdecoded := decoded_append hchars ['%', '2', 'e'] ['.'] rfl
    refine normalize_eq_ok.mpr ⟨.name (ascii ++ ['.']), ?_, ?_⟩
    · rw [host?, hescaped, parse_eq_ofName hhead, ofName, hdecoded, toAscii_append_stop hchars hself]
      dsimp only
      rw [ofAscii, if_neg (by simp), endsInNumber_append_stop hnil hclosed, hnumber,
        if_neg Bool.false_ne_true]
    · apply String.toList_inj.mp
      simp [htext, text]
  · have hstopped : core (key ++ ".") = ascii := by
      rw [hcore "." ['.'] rfl (forall_mem_of_all (by decide)),
        dropEndWhile_append (List.forall_mem_singleton.mpr rfl), dropEndWhile_closed hclosed]
    rw [key_eq_iff h, hname, host?, hstopped]
    have hwell : (Host.name ascii).WellFormed := ⟨⟨cs, hcs⟩, hnil, hnumber⟩
    exact parse_text hwell (htext ▸ hreadable.labels)

theorem key_chars (h : normalize raw = .ok key) :
    key ≠ "" ∧ ∀ c ∈ key.toList, c.toNat < 128 ∧ c.isUpper = false := by
  obtain ⟨host, -, hwell, htext⟩ := of_normalize h
  constructor
  · rintro rfl
    exact text_ne_nil hwell htext.symm
  · intro c hc
    rw [htext] at hc
    have hkey := isKeyChar_of_mem_text hwell c hc
    have hupper : c.isUpper = true → 'A'.val ≤ c.val ∧ c.val ≤ 'Z'.val := of_decide_eq_true
    exact ⟨hkey.ascii, Bool.eq_false_of_not_eq_true fun h => hkey.lower (hupper h)⟩

end DomainName

namespace Records

/-- Records change under some names only, and each stays under its own. -/
structure ChangeWithin (names : String → Prop) (rs rs' : Records) : Prop where
  keyed : rs.Keyed → rs'.Keyed
  within {name : String} : rs'[name]? ≠ rs[name]? → names name

variable {names : String → Prop} {rs rs' rs'' : Records}

lemma ChangeWithin.refl (rs : Records) : rs.ChangeWithin names rs :=
  ⟨id, fun h => (h rfl).elim⟩

lemma ChangeWithin.trans (h : rs.ChangeWithin names rs') (h' : rs'.ChangeWithin names rs'') :
    rs.ChangeWithin names rs'' := by
  refine ⟨fun hk => h'.keyed (h.keyed hk), fun {name} hne => ?_⟩
  by_cases hmid : rs''[name]? = rs'[name]?
  · exact h.within (hmid ▸ hne)
  · exact h'.within hmid

lemma ChangeWithin.put {r : Record} (h : names r.name) : rs.ChangeWithin names (rs.put r) := by
  refine ⟨fun hk => hk.put r, fun {name} hne => ?_⟩
  by_cases hname : r.name = name
  · exact hname ▸ h
  · rw [getElem?_put, if_neg hname] at hne
    exact (hne rfl).elim

end Records

/-- What requests owe each other that change records under some names only. -/
def Contract.within (names : String → Prop) : Contract :=
  .shared (Records.ChangeWithin names) .refl .trans

namespace Registry

open Program Web

variable {reg : Registry} {req : Request} {names : String → Prop} {rs : Records}

lemma keeps_respond (hb : reg.Batched) (hpath : req.path ≠ "/update")
    (hnames : ∀ domain, req.Names domain → names domain) (hk : rs.Keyed) :
    (reg.respond req).Keeps (.within names) (fun _ _ => True) rs := by
  refine keeps_respond_of_asks fun op hasks => ?_
  have hop : op ≠ .update := by
    rintro rfl
    cases hasks with
    | update _ hupdate => exact hpath hupdate
  have hdomain : ∀ domain, op.domain? = some domain → names domain := by
    intro domain hdomain
    cases hasks with
    | submit _ _ hnamed | remove _ _ hnamed | setPreloaded _ _ _ hnamed =>
      cases hdomain
      exact hnames domain hnamed
    | update => cases hdomain
  exact op.keeps_decided hb hop fun rs₁ rs₂ r h₁ _ hdecides =>
    .put (hdomain _ (hdecides.domain?_eq (h₁.keyed hk)))

variable {σ : Type} [RecordStore σ] [LawfulStore σ]

/-- However requests are interleaved, as long as none is for an update, each record that changes
is that of a domain which one of them names. -/
theorem named_of_changed {calls : List (Registry × Request)}
    (hcalls : ∀ call ∈ calls, call.1.Batched ∧ call.2.path ≠ "/update") {w w' : World σ}
    {threads : List (Program Response)} (hk : w.records.Keyed)
    (hs : Relation.ReflTransGen World.Interleaved
      (w, calls.map fun call => call.1.respond call.2) (w', threads)) {name : String}
    (hc : w'.records[name]? ≠ w.records[name]?) : ∃ call ∈ calls, call.2.Names name := by
  let names (name : String) : Prop := ∃ call ∈ calls, call.2.Names name
  have hkeep : ∀ p ∈ calls.map fun call => call.1.respond call.2,
      p.Keeps (.within names) (fun _ _ => True) w.records := by
    intro p hp
    obtain ⟨call, hcall, rfl⟩ := List.mem_map.mp hp
    obtain ⟨hb, hpath⟩ := hcalls call hcall
    exact keeps_respond hb hpath (fun domain hnamed => ⟨call, hcall, hnamed⟩) hk
  exact (Keeps.interleaved (fun _ _ h => h) hkeep hs).1.within hc

open DomainName in
/-- The keys of the registry. Whatever text has a normal form, that is a text of ASCII characters
without capitals, it is the normal form of exactly the texts that name the same host, and it is its
own unless it ends in a full stop or has a label too long to be read. Of the requests that are not
for an update, interleaved in any way, each record that changes is one of a normal form which a
request asked for, and no two of them are about one host, as long as they can be read. -/
theorem keys_are_normal_forms :
    (∀ raw key : String, normalize raw = .ok key →
      (key ≠ "" ∧ ∀ c ∈ key.toList, c.toNat < 128 ∧ c.isUpper = false) ∧
      (normalize key = .ok key ↔ IsReadable key) ∧
      ∀ raw' : String, normalize raw' = .ok key ↔ host? raw' = host? raw) ∧
    ∀ (calls : List (Registry × Request)) (w w' : World σ) (threads : List (Program Response)),
      (∀ call ∈ calls, call.1.Batched ∧ call.2.path ≠ "/update") → w.records.Keyed →
      Relation.ReflTransGen World.Interleaved
        (w, calls.map fun call => call.1.respond call.2) (w', threads) →
      (∀ name : String, w'.records[name]? ≠ w.records[name]? →
        (∃ call ∈ calls, call.2.Names name) ∧ (normalize name = .ok name ↔ IsReadable name)) ∧
      ∀ name other : String, w'.records[name]? ≠ w.records[name]? →
        w'.records[other]? ≠ w.records[other]? → IsReadable name → IsReadable other →
        host? name = host? other → name = other := by
  refine ⟨fun raw key h => ⟨key_chars h, normalize_key h, fun raw' => key_eq_iff h⟩, ?_⟩
  intro calls w w' threads hcalls hk hs
  have hnormal : ∀ name : String, w'.records[name]? ≠ w.records[name]? →
      (∃ call ∈ calls, call.2.Names name) ∧ (normalize name = .ok name ↔ IsReadable name) := by
    intro name hc
    obtain ⟨call, hcall, hnamed⟩ := named_of_changed hcalls hk hs hc
    obtain ⟨raw, hquery, hraw⟩ := hnamed
    exact ⟨⟨call, hcall, raw, hquery, hraw⟩, normalize_key hraw⟩
  refine ⟨hnormal, fun name other hname hother hreadable hreadable' hsame => ?_⟩
  have hown := (hnormal name hname).2.mpr hreadable
  have hown' := (hnormal other hother).2.mpr hreadable'
  have hboth : normalize other = .ok name := (key_eq_iff hown).mpr hsame.symm
  exact Except.ok.inj (hboth.symm.trans hown')

theorem stopped_key_is_not_normal :
    let reg := Registry.listing ⟨[]⟩
    let w : World MemoryStore := .holding [{ name := "[::1]", status := .preloaded }]
    let leave : Request := { method := "POST", path := "/remove", query := "domain=[0:0::1]".toList }
    let join : Request := { method := "POST", path := "/submit", query := "domain=[::2]".toList }
    let w' := ((w.run (reg.respond leave)).2.run (reg.respond join)).2
    (w'.records.get "[::1]").status = .pendingRemoval ∧ (w'.records.get "[::2]").status = .pending ∧
      DomainName.normalize "[::1]" = .ok "[::1]" ∧
      DomainName.host? "[::1]" ≠ DomainName.host? "[::2]" ∧
      DomainName.normalize "a.test%2e" = .ok "a.test." ∧
      DomainName.normalize "a.test." ≠ .ok "a.test." := by
  intro reg w leave join w'
  obtain ⟨hkeys, htraffic⟩ := keys_are_normal_forms (σ := MemoryStore)
  have hsteps : Relation.ReflTransGen World.Interleaved
      (w, [(reg, leave), (reg, join)].map fun call => call.1.respond call.2)
      (w', [.done (w.run (reg.respond leave)).1,
        .done ((w.run (reg.respond leave)).2.run (reg.respond join)).1]) :=
    (World.interleaved_of_steps 0 rfl (w.run_steps _)).trans
      (World.interleaved_of_steps 1 rfl (World.run_steps _ _))
  have hcalls : ∀ call ∈ [(reg, leave), (reg, join)],
      call.1.Batched ∧ call.2.path ≠ "/update" := by
    simp only [List.forall_mem_cons]
    exact ⟨⟨rfl, by decide⟩, ⟨rfl, by decide⟩, by simp⟩
  obtain ⟨hnormal, hapart⟩ := htraffic _ w w' _ hcalls (World.keyed_holding _) hsteps
  have hfirst : w'.records["[::1]"]? ≠ w.records["[::1]"]? := by decide
  have hsecond : w'.records["[::2]"]? ≠ w.records["[::2]"]? := by decide
  have hread : DomainName.IsReadable "[::1]" := ⟨by decide, by unfold Host.Readable; decide⟩
  have hread' : DomainName.IsReadable "[::2]" := ⟨by decide, by unfold Host.Readable; decide⟩
  have hdigits : ∀ piece ∈ [['a'], ['t', 'e', 's', 't']], ∀ c ∈ piece, Host.Punycode.IsDigit c := by
    simp [Host.Punycode.IsDigit]
  have hhost : DomainName.host? "a.test" = .ok (.name ['a', '.', 't', 'e', 's', 't']) :=
    DomainName.host?_of_isDigit rfl hdigits (by decide) (by decide) (by decide)
  have hkey : DomainName.normalize "a.test" = .ok "a.test" :=
    DomainName.normalize_eq_ok.mpr ⟨_, hhost, rfl⟩
  have hreadable : DomainName.IsReadable "a.test" := ⟨by decide, by unfold Host.Readable; decide⟩
  obtain ⟨hescaped, -⟩ := DomainName.normalize_escaped_stop hkey hhost hreadable
  refine ⟨by decide, by decide, (hnormal _ hfirst).2.mpr hread, ?_, hescaped, ?_⟩
  · intro hsame
    have hone := hapart _ _ hfirst hsecond hread hread' hsame
    revert hone
    decide
  · intro hnormal
    have hstopped := ((hkeys _ _ hescaped).2.1.mp hnormal).closed
    exact hstopped (by decide)

end Registry

end HstsPreload
