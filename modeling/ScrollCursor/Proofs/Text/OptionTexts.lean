import Mathlib.Logic.Relation
import ScrollCursor.Config
import ScrollCursor.Proofs.Text.ReadingBack

/-! # Options and their texts

The text of options is read back as exactly these options. What an option text gives depends on
little of how it is written: blank parts, unknown keys, blanks around keys and values, the case of
keys and the order of different keys make no difference, and of several values for one key the last
one counts.
-/

namespace ScrollCursor

namespace Text

/-! ## Parts of an option text -/

theorem parts_eq_splitOn (sep : Char) (cs : List Char) : parts sep cs = cs.splitOn sep := by
  induction cs with
  | nil => rw [parts, List.splitOn_nil]
  | cons c cs ih =>
      rw [parts, ih, List.splitOn_cons_eq_if_modifyHead]
      by_cases h : c = sep
      · rw [if_pos h, if_pos (beq_iff_eq.mpr h)]
      · obtain ⟨part, rest, heq⟩ := List.exists_cons_of_ne_nil (List.splitOn_ne_nil sep cs)
        rw [if_neg h, if_neg (by simpa using h), heq, List.modifyHead_cons]

/-- Texts without the separator are found again between separators. -/
theorem parts_intercalate {sep : Char} {texts : List (List Char)} (hne : texts ≠ [])
    (h : ∀ text ∈ texts, sep ∉ text) : parts sep ([sep].intercalate texts) = texts := by
  rw [parts_eq_splitOn, List.splitOn_intercalate sep h hne]

/-- The parts of a text with separators in between are the text. -/
theorem intercalate_parts (sep : Char) (cs : List Char) :
    [sep].intercalate (parts sep cs) = cs := by
  rw [parts_eq_splitOn, List.intercalate_splitOn]

/-- A text is divided at its first separator. -/
theorem splitFirst?_append {sep : Char} {before : List Char} (after : List Char)
    (h : sep ∉ before) : splitFirst? sep (before ++ sep :: after) = some (before, after) := by
  induction before with
  | nil => rw [List.nil_append, splitFirst?, if_pos rfl]
  | cons c before ih =>
      rw [List.mem_cons, not_or] at h
      rw [List.cons_append, splitFirst?, if_neg (Ne.symm h.1), ih h.2, Option.map_some]

/-! ## Trimming around a separator -/

/-- Blanks at the beginning are trimmed off up to the first visible character. -/
theorem trimStart_append {c : Char} (cs rest : List Char) (hc : isBlank c = false) :
    trimStart (cs ++ c :: rest) = trimStart cs ++ c :: rest := by
  rw [trimStart, List.dropWhile_append, List.dropWhile_cons_of_neg (by simp [hc])]
  split
  next hblank => rw [trimStart, List.isEmpty_iff.mp hblank, List.nil_append]
  · rfl

/-- Blanks at the end are trimmed off down to the last visible character. -/
theorem trimEnd_append {c : Char} (cs rest : List Char) (hc : isBlank c = false) :
    trimEnd (cs ++ c :: rest) = cs ++ c :: trimEnd rest := by
  have hreverse := trimStart_append rest.reverse cs.reverse hc
  rw [trimStart, trimStart] at hreverse
  rw [trimEnd, List.reverse_append, List.reverse_cons, List.append_assoc, List.singleton_append,
    hreverse, List.reverse_append, List.reverse_cons, List.reverse_reverse, List.append_assoc]
  rfl

/-- Each side of a separator is trimmed at its outer end. -/
theorem trim_append_cons {sep : Char} (before after : List Char) (hsep : isBlank sep = false) :
    trim (before ++ sep :: after) = trimStart before ++ sep :: trimEnd after := by
  rw [trim, trimStart_append before after hsep, trimEnd_append _ after hsep]

theorem trim_trimStart (cs : List Char) : trim (trimStart cs) = trim cs := by
  have hblanks : ∀ c ∈ cs.takeWhile isBlank ++ [], isBlank c = true := by
    rw [List.append_nil]
    exact fun c hc => List.mem_takeWhile_imp hc
  have htrim := trim_append_blanks (trimStart cs) hblanks
  rwa [List.append_nil, trimStart, List.takeWhile_append_dropWhile, eq_comm] at htrim

theorem trim_trimEnd (cs : List Char) : trim (trimEnd cs) = trim cs := by
  have hblanks : ∀ c ∈ [] ++ (cs.reverse.takeWhile isBlank).reverse, isBlank c = true :=
    fun c hc => List.mem_takeWhile_imp (List.mem_reverse.mp hc)
  have htrim := trim_append_blanks (trimEnd cs) hblanks
  rwa [List.nil_append, trimEnd, ← List.reverse_append, List.takeWhile_append_dropWhile,
    List.reverse_reverse, eq_comm] at htrim

/-! ## Blanks and letter case -/

/-- No printable character of ASCII is blank. -/
theorem isBlank_of_visible {c : Char} (hlow : 0x20 < c.toNat) (hhigh : c.toNat < 0x80) :
    isBlank c = false := by
  simp only [isBlank, Bool.or_eq_false_iff, Bool.and_eq_false_iff, decide_eq_false_iff_not,
    beq_eq_false_iff_ne]
  omega

theorem isBlank_of_isDigit {c : Char} (h : c.isDigit = true) : isBlank c = false := by
  have hcode : 48 ≤ c.toNat ∧ c.toNat ≤ 57 := by
    simpa [Char.isDigit, UInt32.le_iff_toNat_le] using h
  exact isBlank_of_visible (by omega) (by omega)

/-- Upper case makes no character blank or visible. -/
theorem isBlank_toUpper (c : Char) : isBlank c.toUpper = isBlank c := by
  unfold Char.toUpper
  split
  next hlower =>
    have hlow : 97 ≤ c.toNat := hlower.1
    have hhigh : c.toNat ≤ 122 := hlower.2
    have hcode : (c.val + ('A'.val - 'a'.val)).toNat = c.toNat - 32 := by
      have hval : c.val.toNat = c.toNat := rfl
      rw [UInt32.toNat_add, hval, show ('A'.val - 'a'.val).toNat = 2 ^ 32 - 32 from rfl]
      omega
    rw [isBlank_of_visible (c := c) (by omega) (by omega)]
    refine isBlank_of_visible ?_ ?_
    · change 0x20 < (c.val + ('A'.val - 'a'.val)).toNat
      omega
    · change (c.val + ('A'.val - 'a'.val)).toNat < 0x80
      omega
  · rfl

/-- Texts can be trimmed before or after they are put in upper case. -/
theorem trim_map_toUpper (cs : List Char) :
    trim (cs.map Char.toUpper) = (trim cs).map Char.toUpper := by
  have hsame : isBlank ∘ Char.toUpper = isBlank := funext isBlank_toUpper
  rw [trim, trimStart, List.dropWhile_map, hsame, trimEnd, ← List.map_reverse, List.dropWhile_map,
    hsame, ← List.map_reverse]
  rfl

/-- The case of a text does not matter for the case of what is left after trimming. -/
theorem upper_trim {cs cs' : List Char}
    (h : sameName (String.ofList cs) (String.ofList cs') = true) :
    upper (String.ofList (trim cs)) = upper (String.ofList (trim cs')) := by
  have hupper := sameName_iff.mp h
  simp only [upper, String.toList_ofList, String.ofList_inj] at hupper ⊢
  rw [← trim_map_toUpper, ← trim_map_toUpper, hupper]

/-! ## Numbers -/

/-- A number is read back from its digits. -/
theorem digits?_toDigits (n : Nat) : digits? (Nat.toDigits 10 n) = some n := by
  have hne : (Nat.toDigits 10 n).isEmpty = false := by simp [Nat.toDigits_ne_nil]
  have hdigits : (Nat.toDigits 10 n).all Char.isDigit = true :=
    List.all_eq_true.mpr fun c hc => Nat.isDigit_of_mem_toDigits (by decide) (by decide) hc
  rw [digits?, hne, hdigits]
  exact congrArg some Nat.ofDigitChars_ten_toDigits

/-- A number below `2 ^ 64` is read back from its digits. -/
theorem size?_toDigits {n : Nat} (h : n < 1 <<< 64) : size? (Nat.toDigits 10 n) = some n := by
  have hplus : '+' ∉ Nat.toDigits 10 n := fun hmem =>
    absurd (Nat.isDigit_of_mem_toDigits (by decide) (by decide) hmem) (by decide)
  unfold size?
  split
  next rest heq => exact absurd (heq ▸ List.mem_cons_self) hplus
  · dsimp only
    rw [digits?_toDigits, Option.filter_some]
    exact if_pos (decide_eq_true h)

/-- A size that is read fits a machine word. -/
theorem size?_lt {cs : List Char} {n : Nat} (h : size? cs = some n) : n < 1 <<< 64 :=
  of_decide_eq_true (Option.filter_eq_some_iff.mp h).2

end Text

namespace Config

/-- One option with what it is set to, by a caller or by a part of a text. -/
inductive Setting where
  | identifierQuote (quote : IdentifierQuote)
  | bindMode (mode : BindMode)
  | dynamicCursor (on : Bool)
  | forwardOnly (on : Bool)
  | rowArraySize (size : UInt64)
  deriving DecidableEq

namespace Setting

def key : Setting → OptionKey
  | .identifierQuote _ => .identifierQuote
  | .bindMode _ => .bindMode
  | .dynamicCursor _ => .dynamicCursor
  | .forwardOnly _ => .forwardCursor
  | .rowArraySize _ => .rowArraySize

/-- The setting that a value of a key stands for. -/
def ofText? (key : OptionKey) (value : String) : Option Setting :=
  match key with
  | .identifierQuote => (IdentifierQuote.ofOption? (Text.lower value)).map .identifierQuote
  | .bindMode => (BindMode.ofOption? (Text.lower value)).map .bindMode
  | .dynamicCursor => (flag key value).toOption.map .dynamicCursor
  | .forwardCursor => (flag key value).toOption.map .forwardOnly
  | .rowArraySize => (Text.size? value.toList).map fun size => .rowArraySize (.ofNat size)

end Setting

def apply (c : Config) : Setting → Config
  | .identifierQuote quote => { c with identifierQuote := quote }
  | .bindMode mode => { c with bindMode := mode }
  | .dynamicCursor on => { c with dynamicCursor := on }
  | .forwardOnly on => { c with forwardOnly := on }
  | .rowArraySize size => c.withRowArraySize size.toNat

/-- The options after some settings, everything else being as by default. -/
def built (settings : List Setting) : Config :=
  settings.foldl apply {}

/-- The known key that a part of a text gives a value for, and the value. -/
def reading? (part : List Char) : Option (OptionKey × String) := do
  let (key, value) ← Text.splitFirst? '=' (Text.trim part)
  let key ← OptionKey.ofText? (Text.upper (String.ofList (Text.trim key)))
  return (key, String.ofList (Text.trim value))

/-- The text of which these are the parts. -/
def optionText (parts : List (List Char)) : String :=
  String.ofList ([';'].intercalate parts)

/-- Parts of a text written in another way that means the same. -/
inductive Respelling : List (List Char) → List (List Char) → Prop where
  | blank {part : List Char} (hblank : ∀ c ∈ part, Text.isBlank c = true) : Respelling [] [part]
  | unknown {key : List Char} (value : List Char) (hkey : '=' ∉ key)
      (hunknown : OptionKey.ofText? (Text.upper (String.ofList (Text.trim key))) = none) :
      Respelling [] [key ++ '=' :: value]
  | spaced {key : List Char} (value : List Char) {beforeKey afterKey beforeValue afterValue :
      List Char} (hkey : '=' ∉ key)
      (hblanks : ∀ c ∈ beforeKey ++ afterKey ++ beforeValue ++ afterValue, Text.isBlank c = true) :
      Respelling [key ++ '=' :: value]
        [beforeKey ++ (key ++ afterKey) ++ '=' :: (beforeValue ++ (value ++ afterValue))]
  | recased {key key' : List Char} (value : List Char) (hkey : '=' ∉ key) (hkey' : '=' ∉ key')
      (hsame : Text.sameName (String.ofList key) (String.ofList key') = true) :
      Respelling [key ++ '=' :: value] [key' ++ '=' :: value]
  | reordered {part part' : List Char} {key key' : OptionKey} {value value' : String}
      (hpart : reading? part = some (key, value)) (hpart' : reading? part' = some (key', value'))
      (hne : key ≠ key') : Respelling [part, part'] [part', part]
  | within {parts parts' : List (List Char)} (before after : List (List Char))
      (h : Respelling parts parts') :
      Respelling (before ++ parts ++ after) (before ++ parts' ++ after)

/-! ## What one part sets -/

variable {c d : Config} {key : OptionKey} {value : String} {part : List Char}

/-- A key is set to a text if the text is that of a setting of the key. -/
theorem set_eq_ok_iff :
    c.set key value = .ok d ↔ ∃ s, Setting.ofText? key value = some s ∧ c.apply s = d := by
  cases key with
  | identifierQuote =>
      rw [set, Setting.ofText?]
      cases IdentifierQuote.ofOption? (Text.lower value) <;> simp [apply]
  | bindMode =>
      rw [set, Setting.ofText?]
      cases BindMode.ofOption? (Text.lower value) <;> simp [apply]
  | dynamicCursor =>
      rw [set, Setting.ofText?]
      cases flag .dynamicCursor value <;>
        simp [apply, Except.toOption, bind, Except.bind, pure, Except.pure]
  | forwardCursor =>
      rw [set, Setting.ofText?]
      cases flag .forwardCursor value <;>
        simp [apply, Except.toOption, bind, Except.bind, pure, Except.pure]
  | rowArraySize =>
      rw [set, Setting.ofText?]
      cases hsize : Text.size? value.toList with
      | none => simp
      | some size =>
          have hround : (UInt64.ofNat size).toNat = size :=
            UInt64.toNat_ofNat_of_lt' (Text.size?_lt hsize)
          have happly : c.apply (.rowArraySize (.ofNat size)) = c.withRowArraySize size := by
            rw [apply, hround]
          simp only [Option.map_some, Option.some.injEq, exists_eq_left', happly, Except.ok.injEq]

theorem Setting.key_ofText? {s : Setting} (h : ofText? key value = some s) : s.key = key := by
  cases key <;> obtain ⟨_, _, rfl⟩ := Option.map_eq_some_iff.mp h <;> rfl

/-- Settings of different keys can be applied in either order. -/
theorem apply_comm (c : Config) {s s' : Setting} (h : s.key ≠ s'.key) :
    (c.apply s).apply s' = (c.apply s').apply s := by
  cases s <;> cases s' <;> first | rfl | exact absurd rfl h

/-- Of two settings of one key the later one counts. -/
theorem apply_apply (c : Config) {s s' : Setting} (h : s.key = s'.key) :
    (c.apply s).apply s' = c.apply s' := by
  cases s <;> cases s' <;> first | rfl | cases h

/-- A part is cut at its first equals sign. -/
theorem splitFirst?_keyed {key : List Char} (value : List Char) (hkey : '=' ∉ key) :
    Text.splitFirst? '=' (Text.trim (key ++ '=' :: value)) =
      some (Text.trimStart key, Text.trimEnd value) := by
  have hstart : '=' ∉ Text.trimStart key :=
    fun hmem => hkey ((List.dropWhile_sublist Text.isBlank).subset hmem)
  rw [Text.trim_append_cons key value (by decide), Text.splitFirst?_append _ hstart]

/-- An option is read off the first equals sign, without the blanks around its sides. -/
theorem reading?_keyed {key : List Char} (value : List Char) (hkey : '=' ∉ key) :
    reading? (key ++ '=' :: value) =
      (OptionKey.ofText? (Text.upper (String.ofList (Text.trim key)))).map
        (·, String.ofList (Text.trim value)) := by
  rw [reading?, splitFirst?_keyed value hkey, Option.bind_eq_bind, Option.bind_some]
  dsimp only
  rw [Text.trim_trimStart, Text.trim_trimEnd]
  cases OptionKey.ofText? (Text.upper (String.ofList (Text.trim key))) <;> rfl

/-- An option with a known key sets its key. -/
theorem setPart_of_reading (c : Config) (h : reading? part = some (key, value)) :
    c.setPart part = c.set key value := by
  obtain ⟨⟨keyText, valueText⟩, hsplit, hread⟩ := Option.bind_eq_some_iff.mp h
  obtain ⟨key', hkey, hsame⟩ := Option.bind_eq_some_iff.mp hread
  obtain ⟨rfl, rfl⟩ := Prod.mk.inj (Option.some.inj hsame)
  have hne : (Text.trim part).isEmpty = false := by
    cases htrim : Text.trim part with
    | nil => simp [htrim, Text.splitFirst?] at hsplit
    | cons c cs => rfl
  rw [setPart, hne, hsplit]
  simp [hkey]

/-- An option with an unknown key is skipped. -/
theorem setPart_of_unknown (c : Config) {key : List Char} (value : List Char) (hkey : '=' ∉ key)
    (hunknown : OptionKey.ofText? (Text.upper (String.ofList (Text.trim key))) = none) :
    c.setPart (key ++ '=' :: value) = .ok c := by
  rw [setPart, splitFirst?_keyed value hkey]
  simp [Text.trim_trimStart, hunknown]

/-- Parts that are read alike set the same. -/
theorem setPart_congr (c : Config) {key key' : List Char} (value value' : List Char)
    (hkey : '=' ∉ key) (hkey' : '=' ∉ key')
    (h : Text.upper (String.ofList (Text.trim key)) = Text.upper (String.ofList (Text.trim key')))
    (hvalue : Text.trim value = Text.trim value') :
    c.setPart (key ++ '=' :: value) = c.setPart (key' ++ '=' :: value') := by
  have hread := reading?_keyed value hkey
  have hread' := reading?_keyed value' hkey'
  cases hknown : OptionKey.ofText? (Text.upper (String.ofList (Text.trim key))) with
  | none =>
      rw [setPart_of_unknown c value hkey hknown,
        setPart_of_unknown c value' hkey' (h ▸ hknown)]
  | some known =>
      rw [hknown] at hread
      rw [← h, hknown, ← hvalue] at hread'
      rw [setPart_of_reading c hread, setPart_of_reading c hread']

/-! ## Parts that mean the same -/

/-- The parts lead to the same options, whatever was set before. -/
def SameOptions (parts parts' : List (List Char)) : Prop :=
  ∀ c d : Config, parts.foldlM setPart c = .ok d ↔ parts'.foldlM setPart c = .ok d

theorem foldlM_append_eq_ok_iff {parts parts' : List (List Char)} :
    (parts ++ parts').foldlM setPart c = .ok d ↔
      ∃ e, parts.foldlM setPart c = .ok e ∧ parts'.foldlM setPart e = .ok d := by
  rw [List.foldlM_append]
  cases parts.foldlM setPart c with
  | error e => simp [bind, Except.bind]
  | ok e => simp [bind, Except.bind]

theorem foldlM_cons_eq_ok_iff {parts : List (List Char)} :
    (part :: parts).foldlM setPart c = .ok d ↔
      ∃ e, c.setPart part = .ok e ∧ parts.foldlM setPart e = .ok d := by
  rw [List.foldlM_cons]
  cases c.setPart part with
  | error e => simp [bind, Except.bind]
  | ok e => simp [bind, Except.bind]

/-- Options that come to the same do so among others. -/
theorem SameOptions.within {parts parts' : List (List Char)} (h : SameOptions parts parts')
    (before after : List (List Char)) :
    SameOptions (before ++ parts ++ after) (before ++ parts' ++ after) := by
  intro c d
  simp only [foldlM_append_eq_ok_iff, h _ _]

/-- Two settings of different options may change places. -/
theorem foldlM_swap {part part' : List Char} {key key' : OptionKey} {value value' : String}
    (hpart : reading? part = some (key, value)) (hpart' : reading? part' = some (key', value'))
    (hne : key ≠ key') (h : [part, part'].foldlM setPart c = .ok d) :
    [part', part].foldlM setPart c = .ok d := by
  simp only [foldlM_cons_eq_ok_iff, setPart_of_reading _ hpart, setPart_of_reading _ hpart',
    set_eq_ok_iff] at h ⊢
  obtain ⟨e, ⟨s, hs, rfl⟩, f, ⟨s', hs', rfl⟩, hd⟩ := h
  have hkeys : s'.key ≠ s.key := by
    rw [Setting.key_ofText? hs, Setting.key_ofText? hs']
    exact hne.symm
  refine ⟨c.apply s', ⟨s', hs', rfl⟩, (c.apply s').apply s, ⟨s, hs, rfl⟩, ?_⟩
  rwa [apply_comm c hkeys]

/-- Each way to spell options differently comes to the same. -/
theorem Respelling.sameOptions {parts parts' : List (List Char)} (h : Respelling parts parts') :
    SameOptions parts parts' := by
  induction h with
  | blank hblank =>
      intro c d
      rw [List.foldlM_cons, setPart, Text.trim_eq_nil hblank]
      rfl
  | unknown value hkey hunknown =>
      intro c d
      rw [List.foldlM_cons, setPart_of_unknown c value hkey hunknown]
      rfl
  | @spaced key value beforeKey afterKey beforeValue afterValue hkey hblanks =>
      have hkeyBlanks : ∀ c ∈ beforeKey ++ afterKey, Text.isBlank c = true :=
        fun c hc => hblanks c (List.mem_append_left _ (List.mem_append_left _ hc))
      have hvalueBlanks : ∀ c ∈ beforeValue ++ afterValue, Text.isBlank c = true := by
        intro c hc
        rw [List.append_assoc] at hblanks
        exact hblanks c (List.mem_append_right _ hc)
      have hkey' : '=' ∉ beforeKey ++ (key ++ afterKey) := by
        have hnot : '=' ∉ beforeKey ++ afterKey :=
          fun hmem => absurd (hkeyBlanks _ hmem) (by decide)
        simp only [List.mem_append, not_or] at hnot ⊢
        exact ⟨hnot.1, hkey, hnot.2⟩
      intro c d
      rw [List.foldlM_cons, List.foldlM_cons]
      rw [setPart_congr c value _ hkey hkey' (by rw [Text.trim_append_blanks key hkeyBlanks])
        (Text.trim_append_blanks value hvalueBlanks).symm]
  | recased value hkey hkey' hsame =>
      intro c d
      rw [List.foldlM_cons, List.foldlM_cons,
        setPart_congr c value value hkey hkey' (Text.upper_trim hsame) rfl]
  | reordered hpart hpart' hne =>
      exact fun c d => ⟨foldlM_swap hpart hpart' hne, foldlM_swap hpart' hpart hne.symm⟩
  | within before after h ih => exact ih.within before after

theorem SameOptions.of_eqvGen {parts parts' : List (List Char)}
    (h : Relation.EqvGen Respelling parts parts') : SameOptions parts parts' := by
  induction h with
  | rel _ _ h => exact h.sameOptions
  | refl _ => exact fun c d => Iff.rfl
  | symm _ _ _ ih => exact fun c d => (ih c d).symm
  | trans _ _ _ _ _ ih ih' => exact fun c d => (ih c d).trans (ih' c d)

/-- A part that is accepted sets one option or nothing. -/
theorem setPart_eq_ok (h : c.setPart part = .ok d) :
    d = c ∨ ∃ key value s, reading? part = some (key, value) ∧
      Setting.ofText? key value = some s ∧ c.apply s = d := by
  cases hread : reading? part with
  | some reading =>
      rw [setPart_of_reading c hread, set_eq_ok_iff] at h
      obtain ⟨s, hs, hd⟩ := h
      exact Or.inr ⟨reading.1, reading.2, s, rfl, hs, hd⟩
  | none =>
      refine Or.inl ?_
      unfold setPart at h
      dsimp only at h
      split at h
      · exact (Except.ok.inj h).symm
      · split at h
        · cases h
        next keyText valueText hsplit =>
          split at h
          · exact (Except.ok.inj h).symm
          next key hkey => simp [reading?, hsplit, hkey] at hread

/-- A setting stays until the same option is set again. -/
theorem apply_eq_self_of_foldlM {after : List (List Char)} {s : Setting}
    (hother : ∀ other ∈ after, ∀ value, reading? other ≠ some (s.key, value))
    (hset : c.apply s = c) (h : after.foldlM setPart c = .ok d) : d.apply s = d := by
  induction after generalizing c with
  | nil => rwa [← Except.ok.inj h]
  | cons part after ih =>
      obtain ⟨hpart, hafter⟩ := List.forall_mem_cons.mp hother
      obtain ⟨e, hfirst, hrest⟩ := foldlM_cons_eq_ok_iff.mp h
      rcases setPart_eq_ok hfirst with rfl | ⟨key, value, s', hread, hs', rfl⟩
      · exact ih hafter hset hrest
      · -- The part sets another option, and such settings commute.
        have hkeys : s'.key ≠ s.key := by
          rintro heq
          rw [Setting.key_ofText? hs'] at heq
          exact hpart value (heq ▸ hread)
        refine ih hafter ?_ hrest
        rw [apply_comm c hkeys, hset]

/-- The last value that the parts give for a key is the one that counts. -/
theorem set_last {before after : List (List Char)} (hread : reading? part = some (key, value))
    (hlast : ∀ other ∈ after, ∀ value', reading? other ≠ some (key, value'))
    (h : (before ++ part :: after).foldlM setPart c = .ok d) : d.set key value = .ok d := by
  obtain ⟨e, -, hrest⟩ := foldlM_append_eq_ok_iff.mp h
  obtain ⟨f, hpart, hafter⟩ := foldlM_cons_eq_ok_iff.mp hrest
  rw [setPart_of_reading e hread] at hpart
  obtain ⟨s, hs, rfl⟩ := set_eq_ok_iff.mp hpart
  rw [← Setting.key_ofText? hs] at hlast
  exact set_eq_ok_iff.mpr ⟨s, hs, apply_eq_self_of_foldlM hlast (apply_apply e rfl) hafter⟩

/-! ## The text of options -/

/-- The size is one that a text can give. -/
structure Sized (c : Config) : Prop where
  pos : 1 ≤ c.rowArraySize
  lt : c.rowArraySize < 1 <<< 64

theorem sized_default : Sized {} :=
  ⟨by decide, by decide⟩

/-- A setting leaves a size that fits a machine word. -/
theorem Sized.apply (h : c.Sized) (s : Setting) : (c.apply s).Sized := by
  cases s with
  | rowArraySize size =>
      have hlt := size.toNat_lt
      exact ⟨Nat.le_max_right _ _, Nat.max_lt.mpr ⟨hlt, by decide⟩⟩
  | identifierQuote | bindMode | dynamicCursor | forwardOnly => exact ⟨h.pos, h.lt⟩

theorem sized_built (settings : List Setting) : (built settings).Sized :=
  List.foldlRecOn settings Config.apply sized_default fun _ h s _ => h.apply s

/-- Options that are read leave a size that fits a machine word. -/
theorem Sized.of_foldlM {parts : List (List Char)} (hc : c.Sized)
    (h : parts.foldlM setPart c = .ok d) : d.Sized := by
  induction parts generalizing c with
  | nil => rwa [← Except.ok.inj h]
  | cons part parts ih =>
      obtain ⟨e, hfirst, hrest⟩ := foldlM_cons_eq_ok_iff.mp h
      rcases setPart_eq_ok hfirst with rfl | ⟨-, -, s, -, -, rfl⟩
      · exact ih hc hrest
      · exact ih (hc.apply s) hrest

/-- A text of options is read option by option. -/
theorem parse_optionText {parts : List (List Char)} (h : ∀ part ∈ parts, ';' ∉ part) :
    parse (optionText parts) = parts.foldlM setPart {} := by
  rw [parse, optionText, String.toList_ofList]
  by_cases hne : parts = []
  · rw [hne]
    rfl
  · rw [Text.parts_intercalate hne h]

/-- What the text of options gives for a key. -/
def valueText (c : Config) : OptionKey → String
  | .identifierQuote => c.identifierQuote.option
  | .bindMode => c.bindMode.option
  | .dynamicCursor => if c.dynamicCursor then "1" else "0"
  | .forwardCursor => if c.forwardOnly then "1" else "0"
  | .rowArraySize => toString c.rowArraySize

def printedPart (c : Config) (key : OptionKey) : String :=
  key.text ++ "=" ++ c.valueText key

/-- An option is printed as its key, an equals sign and its value. -/
theorem toList_printedPart (c : Config) (key : OptionKey) :
    (c.printedPart key).toList = key.text.toList ++ '=' :: (c.valueText key).toList := by
  simp [printedPart]

theorem toList_joined (first second third fourth fifth : String) :
    (first ++ ";" ++ second ++ ";" ++ third ++ ";" ++ fourth ++ ";" ++ fifth).toList =
      [';'].intercalate
        [first.toList, second.toList, third.toList, fourth.toList, fifth.toList] := by
  simp [List.intercalate]

/-- The text of options has a part for every key. -/
theorem text_eq (c : Config) :
    c.text = optionText (OptionKey.all.map fun key => (c.printedPart key).toList) := by
  have hquote : "IDENTIFIER_QUOTE=" = OptionKey.identifierQuote.text ++ "=" := by decide
  have hmode : ";BIND_MODE=" = ";" ++ OptionKey.bindMode.text ++ "=" := by decide
  have hdynamic : ";DYNAMIC_CURSOR=" = ";" ++ OptionKey.dynamicCursor.text ++ "=" := by decide
  have hforward : ";FORWARD_CURSOR=" = ";" ++ OptionKey.forwardCursor.text ++ "=" := by decide
  have hsize : ";ROW_ARRAY_SIZE=" = ";" ++ OptionKey.rowArraySize.text ++ "=" := by decide
  have hjoined : c.text = c.printedPart .identifierQuote ++ ";" ++ c.printedPart .bindMode ++ ";" ++
      c.printedPart .dynamicCursor ++ ";" ++ c.printedPart .forwardCursor ++ ";" ++
      c.printedPart .rowArraySize := by
    unfold text printedPart
    simp only [hquote, hmode, hdynamic, hforward, hsize, String.append_assoc]
    rfl
  refine String.toList_inj.mp ((congrArg String.toList hjoined).trans ?_)
  rw [toList_joined, optionText, String.toList_ofList]
  rfl

/-- A key has no separator in its text, and is read back from it. -/
theorem text_key (key : OptionKey) : '=' ∉ key.text.toList ∧ ';' ∉ key.text.toList ∧
    OptionKey.ofText? (Text.upper (String.ofList (Text.trim key.text.toList))) = some key := by
  cases key <;> decide

/-- The text of a value has no separator and no blank. -/
theorem all_valueText (c : Config) (key : OptionKey) :
    (c.valueText key).toList.all (fun ch => ch != ';' && !Text.isBlank ch) = true := by
  cases key with
  | identifierQuote =>
      rw [valueText]
      cases c.identifierQuote <;> decide
  | bindMode =>
      rw [valueText]
      cases c.bindMode <;> decide
  | dynamicCursor =>
      rw [valueText]
      cases c.dynamicCursor <;> decide
  | forwardCursor =>
      rw [valueText]
      cases c.forwardOnly <;> decide
  | rowArraySize =>
      refine List.all_eq_true.mpr fun ch hch => ?_
      have hdigit : ch.isDigit = true := by
        rw [valueText] at hch
        exact Nat.isDigit_of_mem_toDigits (by decide) (by decide) (Nat.toList_repr ▸ hch)
      have hsemicolon : ch ≠ ';' := by
        rintro rfl
        exact absurd hdigit (by decide)
      rw [Text.isBlank_of_isDigit hdigit, bne_iff_ne.mpr hsemicolon]
      rfl

/-- No value is divided or trimmed when it is read. -/
theorem valueText_visible (c : Config) (key : OptionKey) :
    ∀ ch ∈ (c.valueText key).toList, ch ≠ ';' ∧ Text.isBlank ch = false := by
  intro ch hch
  have hvisible := List.all_eq_true.mp (all_valueText c key) ch hch
  simpa using hvisible

/-- The setting that options have for a key. -/
def setting (c : Config) : OptionKey → Setting
  | .identifierQuote => .identifierQuote c.identifierQuote
  | .bindMode => .bindMode c.bindMode
  | .dynamicCursor => .dynamicCursor c.dynamicCursor
  | .forwardCursor => .forwardOnly c.forwardOnly
  | .rowArraySize => .rowArraySize (.ofNat c.rowArraySize)

/-- The printed value of an option stands for the value that it has. -/
theorem ofText?_valueText (h : c.Sized) (key : OptionKey) :
    Setting.ofText? key (c.valueText key) = some (c.setting key) := by
  cases key with
  | identifierQuote =>
      rw [valueText, setting]
      cases c.identifierQuote <;> decide
  | bindMode =>
      rw [valueText, setting]
      cases c.bindMode <;> decide
  | dynamicCursor =>
      rw [valueText, setting]
      cases c.dynamicCursor <;> rfl
  | forwardCursor =>
      rw [valueText, setting]
      cases c.forwardOnly <;> rfl
  | rowArraySize =>
      have hchars : (toString c.rowArraySize).toList = Nat.toDigits 10 c.rowArraySize :=
        Nat.toList_repr
      rw [valueText, setting, Setting.ofText?, hchars, Text.size?_toDigits h.lt]
      rfl

/-- A printed option is read as the setting it was printed from. -/
theorem setPart_printedPart (d : Config) (h : c.Sized) (key : OptionKey) :
    d.setPart (c.printedPart key).toList = .ok (d.apply (c.setting key)) := by
  obtain ⟨hkey, -, hknown⟩ := text_key key
  have hvalue := Text.trim_eq_self fun ch hch => (c.valueText_visible key ch hch).2
  have hread := reading?_keyed (c.valueText key).toList hkey
  rw [hknown, hvalue, String.ofList_toList] at hread
  rw [toList_printedPart, setPart_of_reading d hread, set_eq_ok_iff]
  exact ⟨_, ofText?_valueText h key, rfl⟩

/-- Printed options are read as the settings they were printed from. -/
theorem foldlM_printedPart (h : c.Sized) (keys : List OptionKey) (d : Config) :
    (keys.map fun key => (c.printedPart key).toList).foldlM setPart d =
      .ok ((keys.map c.setting).foldl Config.apply d) := by
  induction keys generalizing d with
  | nil => rfl
  | cons key keys ih =>
      exact foldlM_cons_eq_ok_iff.mpr ⟨_, setPart_printedPart d h key, ih _⟩

/-- Setting every option overwrites everything. -/
theorem foldl_setting (h : c.Sized) (d : Config) :
    (OptionKey.all.map c.setting).foldl Config.apply d = c := by
  have hsize : (UInt64.ofNat c.rowArraySize).toNat = c.rowArraySize :=
    UInt64.toNat_ofNat_of_lt' h.lt
  have hmax : max c.rowArraySize 1 = c.rowArraySize := Nat.max_eq_left h.pos
  simp [OptionKey.all, setting, Config.apply, withRowArraySize, hsize, hmax]

/-- Options whose size a text can give are read back from their text. -/
theorem Sized.parse_text (h : c.Sized) : parse c.text = .ok c := by
  have hparts : ∀ part ∈ OptionKey.all.map fun key => (c.printedPart key).toList, ';' ∉ part := by
    intro part hpart
    obtain ⟨key, -, rfl⟩ := List.mem_map.mp hpart
    have hvalue : ';' ∉ (c.valueText key).toList :=
      fun hmem => (c.valueText_visible key _ hmem).1 rfl
    rw [toList_printedPart, List.mem_append, List.mem_cons, not_or, not_or]
    exact ⟨(text_key key).2.1, by decide, hvalue⟩
  rw [text_eq, parse_optionText hparts, foldlM_printedPart h, foldl_setting h]

/-- Options that were set one after another or read from a text are read back from their text. What
a text gives stays the same however its parts are respelled, and the last value that it gives for a
key is the one that counts. -/
theorem optionTexts_readBack :
    (∀ settings, parse (built settings).text = .ok (built settings)) ∧
      ∀ text c, parse text = .ok c →
        parse c.text = .ok c ∧ optionText (Text.parts ';' text.toList) = text ∧
        (∀ parts, (∀ part ∈ parts, ';' ∉ part) →
          Relation.EqvGen Respelling (Text.parts ';' text.toList) parts →
          parse (optionText parts) = .ok c) ∧
        ∀ before part after key value, Text.parts ';' text.toList = before ++ part :: after →
          reading? part = some (key, value) →
          (∀ other ∈ after, ∀ value', reading? other ≠ some (key, value')) →
          c.set key value = .ok c := by
  refine ⟨fun settings => (sized_built settings).parse_text, fun text c hparse => ⟨?_, ?_, ?_, ?_⟩⟩
  · exact (sized_default.of_foldlM hparse).parse_text
  · rw [optionText, Text.intercalate_parts, String.ofList_toList]
  · intro parts hparts hsame
    rw [parse_optionText hparts]
    exact (SameOptions.of_eqvGen hsame _ _).mp hparse
  · intro before part after key value hsplit hread hlast
    rw [parse, hsplit] at hparse
    exact set_last hread hlast hparse

/-- The last size counts, and keys may be written in lower case and in another order. -/
theorem optionTexts_readBack_sizes :
    let c : Config := { bindMode := .parameters, rowArraySize := 7 }
    parse "BIND_MODE=params;ROW_ARRAY_SIZE=5;ROW_ARRAY_SIZE=7" = .ok c ∧ parse c.text = .ok c ∧
      parse "ROW_ARRAY_SIZE=5;bind_mode=params;ROW_ARRAY_SIZE=7" = .ok c ∧
      c.set .rowArraySize "7" = .ok c := by
  intro c
  let mode := "BIND_MODE".toList ++ '=' :: "params".toList
  let first := "ROW_ARRAY_SIZE=5".toList
  let last := "ROW_ARRAY_SIZE=7".toList
  let mode' := "bind_mode".toList ++ '=' :: "params".toList
  have hparse : parse "BIND_MODE=params;ROW_ARRAY_SIZE=5;ROW_ARRAY_SIZE=7" = .ok c := rfl
  obtain ⟨hback, -, hrespelled, hlast⟩ := optionTexts_readBack.2 _ c hparse
  have hparts : Text.parts ';' "BIND_MODE=params;ROW_ARRAY_SIZE=5;ROW_ARRAY_SIZE=7".toList =
      [mode, first, last] := by decide
  have htext : optionText [first, mode', last] =
      "ROW_ARRAY_SIZE=5;bind_mode=params;ROW_ARRAY_SIZE=7" := by decide
  have hmode : reading? mode = some (.bindMode, "params") := by decide
  have hfirst : reading? first = some (.rowArraySize, "5") := by decide
  have hread : reading? last = some (.rowArraySize, "7") := by decide
  have hswap : Respelling [mode, first] [first, mode] := .reordered hmode hfirst (by decide)
  have hcase : Respelling [mode] [mode'] :=
    .recased "params".toList (by decide) (by decide) (by decide +kernel)
  have hsemicolon : ∀ part ∈ [first, mode', last], ';' ∉ part := by decide
  rw [hparts] at hrespelled hlast
  -- From here on the parts are only names; what they are would be unfolded at every step.
  clear_value mode first last mode'
  have hmoved : Respelling [mode, first, last] [first, mode, last] := hswap.within [] [last]
  have hlowered : Respelling [first, mode, last] [first, mode', last] :=
    hcase.within [first] [last]
  refine ⟨hparse, hback, (congrArg parse htext).symm.trans (hrespelled _ hsemicolon ?_), ?_⟩
  · exact .trans _ _ _ (.rel _ _ hmoved) (.rel _ _ hlowered)
  · exact hlast [mode, first] last [] .rowArraySize "7" rfl hread (by simp)

end Config

end ScrollCursor
