import Tint.Json.Printer
import Tint.Json.Reader
import Mathlib.Data.List.TakeDrop

/-!
# What is printed is read again

Not every value can be printed so that nothing is lost: a number is printed without its fraction and
exponent, and a text that is not Unicode is left out. `Value.Printable` says that a value has no
such part.

**Texts.** Each character is escaped on its own and is read as one part, either as itself or by its
code (`readParts_escape`). Codes stand for control characters only, so no two of them are ever taken
for a surrogate pair, and the parts are put together to the text that was there.

**Numbers.** The digits of an integer have no superfluous zero in front. They end where no number
goes on (`EndsNumber`): behind a value comes a comma, the end of the line, or nothing.

**Theorem (`Value.read?_pretty`).** By induction over the value, at every level and with anything
behind it (`Value.ReadsBack`). Every bracket, brace and item takes one from the budget, and at least
one character from the text; so a budget of the length of the text is enough.
-/

namespace Tint.Json

/-! ## White space -/

theorem skip_cons {c : Char} (h : isSpace c = false) (cs : List Char) : skip (c :: cs) = c :: cs :=
  List.dropWhile_cons_of_neg (by simp [h])

theorem skip_blank (cs : List Char) : skip (' ' :: cs) = skip cs := List.dropWhile_cons_of_pos rfl

theorem skip_newline (level : Nat) (cs : List Char) : skip (newline level ++ cs) = skip cs := by
  apply List.dropWhile_append_of_pos
  intro x hx
  rcases List.mem_cons.1 hx with rfl | hx
  · rfl
  · rw [List.eq_of_mem_replicate hx]
    rfl

/-! ## Texts -/

/-- A character is escaped by a letter, or by its code if it is a control character, or it stands
for itself. -/
theorem escape_cases (c : Char) :
    (∃ e, escape c = ['\\', e] ∧ escaped? e = some c) ∨
      (c.toNat < 32 ∧ escape c = ['\\', 'u', '0', '0'] ++ controlDigits c) ∨
      (c ≠ '"' ∧ c ≠ '\\' ∧ ¬c.toNat < 32 ∧ escape c = [c]) := by
  unfold escape
  split
  · next h => exact .inl ⟨'"', rfl, by rw [h]; rfl⟩
  next hquote =>
  split
  · next h => exact .inl ⟨'\\', rfl, by rw [h]; rfl⟩
  next hslash =>
  split
  · next h => exact .inl ⟨'b', rfl, h ▸ rfl⟩
  split
  · next h => exact .inl ⟨'f', rfl, h ▸ rfl⟩
  split
  · next h => exact .inl ⟨'n', rfl, h ▸ rfl⟩
  split
  · next h => exact .inl ⟨'r', rfl, h ▸ rfl⟩
  split
  · next h => exact .inl ⟨'t', rfl, h ▸ rfl⟩
  split
  · next h => exact .inr (.inl ⟨h, rfl⟩)
  · next h => exact .inr (.inr ⟨hquote, hslash, h, rfl⟩)

theorem readParts_escaped {c x : Char} (h : escaped? c = some x) (cs : List Char) :
    readParts ('\\' :: c :: cs) = (readParts cs).map fun r => (.char x :: r.1, r.2) := by
  have hu : c ≠ 'u' := by
    rintro rfl
    cases h
  rw [readParts.eq_4 _ _ (by simp [hu]), h]
  cases readParts cs <;> rfl

theorem readParts_plain {c : Char} (hquote : c ≠ '"') (hslash : c ≠ '\\') (hc : ¬c.toNat < 32)
    (cs : List Char) : readParts (c :: cs) = (readParts cs).map fun r => (.char c :: r.1, r.2) := by
  rw [readParts.eq_5 _ _ hquote (by simp [hslash]) (by simp [hslash]),
    if_neg (by simp [hslash, hc])]
  cases readParts cs <;> rfl

theorem readParts_code {a b c d : Char} {n : Nat} (h : hexCode? a b c d = some n)
    (cs : List Char) :
    readParts ('\\' :: 'u' :: a :: b :: c :: d :: cs) =
      (readParts cs).map fun r => (.code n :: r.1, r.2) := by
  rw [readParts, h]
  cases readParts cs <;> rfl

/-- The part is one that the character may be read as. -/
def Part.StandsFor (p : Part) (c : Char) : Prop := p = .char c ∨ p = .code c.toNat ∧ c.toNat < 32

theorem joinParts_cons {p : Part} {c : Char} (h : p.StandsFor c) (parts : List Part) :
    joinParts (p :: parts) = (joinParts parts).map (c :: ·) := by
  rcases h with rfl | ⟨rfl, hc⟩
  · rw [joinParts]
  · have hhigh : isHigh c.toNat = false := by
      simp only [isHigh, Bool.and_eq_false_iff, decide_eq_false_iff_not]
      omega
    have hlow : isLow c.toNat = false := by
      simp only [isLow, Bool.and_eq_false_iff, decide_eq_false_iff_not]
      omega
    cases parts with
    | nil => simp [joinParts, hhigh, hlow]
    | cons q parts => cases q <;> simp [joinParts, hhigh, hlow]

theorem hexCode?_digitChar : ∀ n < 32,
    hexCode? '0' '0' (Nat.digitChar (n / 16)) (Nat.digitChar (n % 16)) = some n := by
  decide

/-- An escaped character is read as one part, which stands for it. -/
theorem readParts_escape (c : Char) (cs : List Char) :
    ∃ p : Part, p.StandsFor c ∧
      readParts (escape c ++ cs) = (readParts cs).map fun r => (p :: r.1, r.2) := by
  rcases escape_cases c with ⟨e, hescape, he⟩ | ⟨hc, hescape⟩ | ⟨hquote, hslash, hc, hescape⟩
  · rw [hescape]
    exact ⟨.char c, .inl rfl, readParts_escaped he cs⟩
  · rw [hescape]
    exact ⟨.code c.toNat, .inr ⟨rfl, hc⟩, readParts_code (hexCode?_digitChar c.toNat hc) cs⟩
  · rw [hescape]
    exact ⟨.char c, .inl rfl, readParts_plain hquote hslash hc cs⟩

theorem readParts_escapes (cs rest : List Char) :
    ∃ parts, readParts (cs.flatMap escape ++ '"' :: rest) = some (parts, rest) ∧
      joinParts parts = some cs := by
  induction cs with
  | nil => exact ⟨[], rfl, rfl⟩
  | cons c cs ih =>
    obtain ⟨parts, hread, hjoin⟩ := ih
    obtain ⟨p, hp, hescape⟩ := readParts_escape c (cs.flatMap escape ++ '"' :: rest)
    refine ⟨p :: parts, ?_, ?_⟩
    · rw [List.flatMap_cons, List.append_assoc, hescape, hread]
      rfl
    · rw [joinParts_cons hp, hjoin]
      rfl

theorem readText_printText (s : String) (rest : List Char) :
    ∃ cs, printText s ++ rest = '"' :: cs ∧ readText cs = some (some s, rest) := by
  obtain ⟨parts, hread, hjoin⟩ := readParts_escapes s.toList rest
  refine ⟨s.toList.flatMap escape ++ '"' :: rest, by simp [printText], ?_⟩
  rw [readText, hread, Option.map_some]
  show some ((joinParts parts).map String.ofList, rest) = _
  rw [hjoin, Option.map_some, String.ofList_toList]

/-! ## Numbers -/

/-- No number goes on here. -/
def EndsNumber (rest : List Char) : Prop :=
  ∀ c ∈ rest.head?, c.isDigit = false ∧ c ≠ '.' ∧ c ≠ 'e' ∧ c ≠ 'E'

theorem span_isDigit {digits rest : List Char} (hdigits : ∀ c ∈ digits, c.isDigit = true)
    (hrest : EndsNumber rest) : (digits ++ rest).span Char.isDigit = (digits, rest) := by
  have hnone : rest.takeWhile Char.isDigit = [] ∧ rest.dropWhile Char.isDigit = rest := by
    cases rest with
    | nil => exact ⟨rfl, rfl⟩
    | cons c cs =>
      have hc := (hrest c rfl).1
      simp [hc]
  rw [List.span_eq_takeWhile_dropWhile, List.takeWhile_append_of_pos hdigits,
    List.dropWhile_append_of_pos hdigits, hnone.1, hnone.2, List.append_nil]

theorem readDigits_toDigits (n : Nat) {rest : List Char} (hrest : EndsNumber rest) :
    readDigits (Nat.toDigits 10 n ++ rest) = some (Nat.toDigits 10 n, rest) := by
  have hdigits : ∀ c ∈ Nat.toDigits 10 n, c.isDigit = true := fun c hc =>
    Nat.isDigit_of_mem_toDigits (by decide) (by decide) hc
  rw [readDigits, span_isDigit hdigits hrest]
  have hne : Nat.toDigits 10 n ≠ [] := Nat.toDigits_ne_nil
  cases h : Nat.toDigits 10 n with
  | nil => exact absurd h hne
  | cons c cs => rfl

theorem head?_toDigits_ne (n : Nat) (h : 0 < n) : (Nat.toDigits 10 n).head? ≠ some '0' := by
  induction n using Nat.strongRecOn with
  | ind n ih =>
    rcases Nat.lt_or_ge n 10 with hn | hn
    · have hdigit : ∀ n < 10, 0 < n → some (Nat.digitChar n) ≠ some '0' := by decide
      rw [Nat.toDigits_of_lt_base hn]
      exact hdigit n hn h
    · have hhead := ih (n / 10) (by omega) (by omega)
      obtain ⟨c, cs, hcs⟩ :=
        List.exists_cons_of_ne_nil (Nat.toDigits_ne_nil (n := n / 10) (b := 10))
      rw [Nat.toDigits_of_base_le (by decide) hn, hcs]
      rwa [hcs] at hhead

/-- No digit of a number comes after a leading zero. -/
theorem toDigits_ne_zero_cons (n : Nat) (c : Char) (cs : List Char) :
    Nat.toDigits 10 n ≠ '0' :: c :: cs := by
  intro h
  rcases Nat.eq_zero_or_pos n with rfl | hn
  · cases h
  · exact head?_toDigits_ne n hn (by rw [h]; rfl)

theorem decimalValue_toDigits (n : Nat) : decimalValue (Nat.toDigits 10 n) = n := by
  have h : ∀ digits k,
      digits.foldl (fun n c => n * 10 + digitValue c) k = Nat.ofDigitChars 10 digits k := by
    intro digits
    induction digits with
    | nil => exact fun _ => rfl
    | cons d digits ih =>
      intro k
      rw [List.foldl_cons, ih, Nat.mul_comm]
      rfl
  rw [decimalValue, h, Nat.ofDigitChars_ten_toDigits]

theorem int?_ofInt (i : Int) : (Number.ofInt i).int? = some i := by
  simp only [Number.ofInt, Number.int?, Number.isIntegral, decimalValue_toDigits]
  show (if decide (i < 0) = true then if i.natAbs = 0 then none else some (-(i.natAbs : Int))
    else some (i.natAbs : Int)) = some i
  by_cases hi : i < 0
  · have hvalue : -(i.natAbs : Int) = i := by omega
    rw [if_pos (decide_eq_true hi), if_neg (by omega), hvalue]
  · have hvalue : (i.natAbs : Int) = i := by omega
    rw [if_neg (by simpa using hi), hvalue]

theorem readWhole_toDigits (n : Nat) {rest : List Char} (hrest : EndsNumber rest) :
    readWhole (Nat.toDigits 10 n ++ rest) = some (Nat.toDigits 10 n, rest) := by
  rw [readWhole, readDigits_toDigits n hrest]
  simp only [Option.bind_eq_bind, Option.bind_some]
  split
  · next h => exact absurd h (toDigits_ne_zero_cons n _ _)
  · rfl

theorem readFraction_of_endsNumber {rest : List Char} (hrest : EndsNumber rest) :
    readFraction rest = some (none, rest) := by
  cases rest with
  | nil => rfl
  | cons c cs => 
    obtain ⟨-, hpoint, -, -⟩ := hrest c rfl
    rw [readFraction.eq_2 _ (by simp [hpoint])]

theorem readExponent_of_endsNumber {rest : List Char} (hrest : EndsNumber rest) :
    readExponent rest = some (none, rest) := by
  cases rest with
  | nil => rfl
  | cons c cs => 
    obtain ⟨-, -, hlower, hupper⟩ := hrest c rfl
    rw [readExponent.eq_3 _ (by simp [hlower]) (by simp [hupper])]

theorem exists_cons_toDigits (n : Nat) :
    ∃ c cs, Nat.toDigits 10 n = c :: cs ∧ c.isDigit = true := by
  obtain ⟨c, cs, h⟩ := List.exists_cons_of_ne_nil (Nat.toDigits_ne_nil (n := n) (b := 10))
  have hc : c ∈ Nat.toDigits 10 n := h ▸ List.mem_cons_self
  exact ⟨c, cs, h, Nat.isDigit_of_mem_toDigits (by decide) (by decide) hc⟩

theorem readNumber_printNumber (i : Int) {rest : List Char} (hrest : EndsNumber rest) :
    readNumber (printNumber (.ofInt i) ++ rest) = some (.ofInt i, rest) := by
  have hwhole := readWhole_toDigits i.natAbs hrest
  have hfraction := readFraction_of_endsNumber hrest
  have hexponent := readExponent_of_endsNumber hrest
  by_cases hi : i < 0
  · have hprint : printNumber (.ofInt i) ++ rest = '-' :: (Nat.toDigits 10 i.natAbs ++ rest) := by
      simp [printNumber, Number.ofInt, hi]
    rw [hprint, readNumber]
    simp [hwhole, hfraction, hexponent, Number.ofInt, hi]
  · have hunsigned : ∀ cs, Nat.toDigits 10 i.natAbs ++ rest ≠ '-' :: cs := by
      obtain ⟨c, cs, hcs, hc⟩ := exists_cons_toDigits i.natAbs
      intro cs' h
      rw [hcs, List.cons_append] at h
      cases h
      cases hc
    have hprint : printNumber (.ofInt i) ++ rest = Nat.toDigits 10 i.natAbs ++ rest := by
      simp [printNumber, Number.ofInt, hi]
    rw [hprint, readNumber]
    simp [hwhole, hfraction, hexponent, Number.ofInt, hi]
    exact hunsigned

/-! ## Values that can be printed -/

/-- The printed form says everything about the value: numbers are integers, and texts are
Unicode. -/
inductive Value.Printable : Value → Prop
  | null : Printable .null
  | bool (b : Bool) : Printable (.bool b)
  | int (i : Int) : Printable (.ofInt i)
  | string (s : String) : Printable (.ofString s)
  | array {items : List Value} : (∀ v ∈ items, Printable v) → Printable (.array items)
  | object {members : List (Option String × Value)} :
    (∀ m ∈ members, m.1.isSome = true) → (∀ m ∈ members, Printable m.2) →
    Printable (.object members)

variable {v : Value} {cs cs' cs'' rest : List Char} {c : Char} {b : Nat}

theorem printNumber_head (i : Int) :
    ∃ c cs, printNumber (.ofInt i) = c :: cs ∧ (c = '-' ∨ c.isDigit = true) := by
  by_cases hi : i < 0
  · exact ⟨'-', Nat.toDigits 10 i.natAbs, by simp [printNumber, Number.ofInt, hi], .inl rfl⟩
  · obtain ⟨c, cs, hcs, hc⟩ := exists_cons_toDigits i.natAbs
    exact ⟨c, cs, by simp [printNumber, Number.ofInt, hi, hcs], .inr hc⟩

theorem ne_of_isDigit {d : Char} (hc : c.isDigit = true) (hd : d.isDigit = false) : c ≠ d := by
  rintro rfl
  rw [hc] at hd
  cases hd

/-- A printed value starts with none of the characters that may stand before a value or instead of
one. -/
theorem print_head (hv : v.Printable) (level : Nat) :
    ∃ c cs, print level v = c :: cs ∧ isSpace c = false ∧ c ≠ ']' ∧ c ≠ '\x7d' := by
  cases hv with
  | null => exact ⟨'n', _, by rw [print], by decide⟩
  | bool b => cases b with
    | true => exact ⟨'t', _, by rw [print], by decide⟩
    | false => exact ⟨'f', _, by rw [print], by decide⟩
  | int i =>
    obtain ⟨c, cs, hcs, hc⟩ := printNumber_head i
    refine ⟨c, cs, by rw [Value.ofInt, print, hcs], ?_⟩
    rcases hc with rfl | hc
    · decide
    · have hspace : isSpace c = false := by
        have hblank : c ≠ ' ' := ne_of_isDigit hc rfl
        have hline : c ≠ '\n' := ne_of_isDigit hc rfl
        have htab : c ≠ '\t' := ne_of_isDigit hc rfl
        have hreturn : c ≠ '\r' := ne_of_isDigit hc rfl
        simp [isSpace, hblank, hline, htab, hreturn]
      exact ⟨hspace, ne_of_isDigit hc rfl, ne_of_isDigit hc rfl⟩
  | string s => exact ⟨'"', _, by rw [Value.ofString, print]; rfl, by decide⟩
  | @array items _ =>
    cases items with
    | nil => exact ⟨'[', _, by rw [print], by decide⟩
    | cons v vs => exact ⟨'[', _, by rw [print]; rfl, by decide⟩
  | @object members _ _ =>
    cases members with
    | nil => exact ⟨'\x7b', _, by rw [print], by decide⟩
    | cons m ms => exact ⟨'\x7b', _, by rw [print]; rfl, by decide⟩

theorem skip_print (hv : v.Printable) (level : Nat) (rest : List Char) :
    skip (print level v ++ rest) = print level v ++ rest := by
  obtain ⟨c, cs, hcs, hspace, -, -⟩ := print_head hv level
  rw [hcs]
  exact skip_cons hspace _

theorem skip_printText (s : String) (rest : List Char) :
    skip (printText s ++ rest) = printText s ++ rest := skip_cons rfl _

/-! ## One value, item or member -/

theorem readItems_last {v : Value} (hv : readValue b cs = some (v, cs'))
    (hskip : skip cs' = ']' :: rest) : readItems (b + 1) cs = some ([v], rest) := by
  simp [readItems, hv, hskip]

theorem readItems_cons {v : Value} {vs : List Value} (hv : readValue b cs = some (v, cs'))
    (hskip : skip cs' = ',' :: cs'') (hvs : readItems b (skip cs'') = some (vs, rest)) :
    readItems (b + 1) cs = some (v :: vs, rest) := by
  simp [readItems, hv, hskip, hvs]

theorem readValue_items {vs : List Value} (hskip : skip cs = c :: cs') (hc : c ≠ ']')
    (hvs : readItems b (c :: cs') = some (vs, rest)) :
    readValue (b + 1) ('[' :: cs) = some (.array vs, rest) := by
  simp [readValue, hskip, hc, hvs]

theorem readValue_text {s : Option String} (h : readText cs = some (s, rest)) :
    readValue (b + 1) ('"' :: cs) = some (.string s, rest) := by
  simp [readValue, h]

theorem readValue_number {n : Number} (hc : c = '-' ∨ c.isDigit = true)
    (h : readNumber (c :: cs) = some (n, rest)) :
    readValue (b + 1) (c :: cs) = some (.number n, rest) := by
  have hother : c ≠ '"' ∧ c ≠ '[' ∧ c ≠ '\x7b' := by
    rcases hc with rfl | hc
    · decide
    · exact ⟨ne_of_isDigit hc rfl, ne_of_isDigit hc rfl, ne_of_isDigit hc rfl⟩
  obtain ⟨hquote, hbracket, hbrace⟩ := hother
  have hsign : (c = '-' || c.isDigit) = true := by simpa using hc
  rw [readValue, if_neg hquote, if_neg hbracket, if_neg hbrace, if_pos hsign, h]
  rfl

theorem readMembers_last {v : Value} {name : Option String} {cs₁ cs₂ : List Char}
    (hname : readText cs = some (name, ':' :: ' ' :: cs₁)) (hblank : skip cs₁ = cs₁)
    (hv : readValue b cs₁ = some (v, cs₂)) (hskip : skip cs₂ = '\x7d' :: rest) :
    readMembers (b + 1) ('"' :: cs) = some ([(name, v)], rest) := by
  simp [readMembers, after?, hname, skip_cons (c := ':') rfl, skip_blank, hblank, hv, hskip]

theorem readMembers_cons {v : Value} {ms : List (Option String × Value)} {name : Option String}
    {cs₁ cs₂ cs₃ : List Char} (hname : readText cs = some (name, ':' :: ' ' :: cs₁))
    (hblank : skip cs₁ = cs₁) (hv : readValue b cs₁ = some (v, cs₂))
    (hskip : skip cs₂ = ',' :: cs₃) (hms : readMembers b (skip cs₃) = some (ms, rest)) :
    readMembers (b + 1) ('"' :: cs) = some ((name, v) :: ms, rest) := by
  simp [readMembers, after?, hname, skip_cons (c := ':') rfl, skip_blank, hblank, hv, hskip, hms]

theorem readValue_members {ms : List (Option String × Value)} (hskip : skip cs = c :: cs')
    (hc : c ≠ '\x7d') (hms : readMembers b (c :: cs') = some (ms, rest)) :
    readValue (b + 1) ('\x7b' :: cs) = some (.object ms, rest) := by
  simp [readValue, hskip, hc, hms]

/-! ## Whole values -/

theorem endsNumber_cons (h : c = ',' ∨ c = '\n') (cs : List Char) : EndsNumber (c :: cs) := by
  intro d hd
  cases hd
  rcases h with rfl | rfl <;> decide

/-- With enough of a budget, the value is read from its printed form whatever follows, as long as no
number goes on there. -/
def Value.ReadsBack (v : Value) : Prop :=
  ∀ level budget rest, EndsNumber rest → (print level v).length ≤ budget →
    readValue budget (print level v ++ rest) = some (v, rest)

theorem readItems_print {v : Value} {vs : List Value} (hprint : ∀ w ∈ v :: vs, w.Printable)
    (hread : ∀ w ∈ v :: vs, w.ReadsBack) (level outer budget : Nat) (rest : List Char)
    (hbudget : (print level v ++ printItems level vs).length ≤ budget) :
    readItems (budget + 1)
        (print level v ++ (printItems level vs ++ (newline outer ++ ']' :: rest))) =
      some (v :: vs, rest) := by
  -- on the items behind the first; each takes one from the budget and a comma from the text
  induction vs generalizing v budget with
  | nil =>
    rw [printItems, List.append_nil] at hbudget
    have hv := hread v List.mem_cons_self level budget (newline outer ++ ']' :: rest)
      (endsNumber_cons (.inr rfl) _) hbudget
    refine readItems_last hv ?_
    rw [skip_newline]
    exact skip_cons rfl rest
  | cons w vs ih =>
    obtain ⟨hhead, htail⟩ := List.forall_mem_cons.1 hprint
    obtain ⟨hreadHead, hreadTail⟩ := List.forall_mem_cons.1 hread
    simp only [printItems, List.length_append, List.length_cons] at hbudget
    have hv := hreadHead level budget
      (printItems level (w :: vs) ++ (newline outer ++ ']' :: rest))
      (endsNumber_cons (.inl rfl) _) (by omega)
    obtain ⟨budget, rfl⟩ : ∃ smaller, budget = smaller + 1 := ⟨budget - 1, by omega⟩
    have hvs := ih htail hreadTail budget (by rw [List.length_append]; omega)
    refine readItems_cons hv (skip_cons rfl _) ?_
    show readItems (budget + 1) (skip (newline level ++ print level w ++ printItems level vs ++
      (newline outer ++ ']' :: rest))) = _
    rw [List.append_assoc, List.append_assoc, skip_newline, skip_print (htail w List.mem_cons_self)]
    exact hvs

theorem readMembers_print {k : String} {v : Value} {ms : List (Option String × Value)}
    (hnames : ∀ m ∈ ms, m.1.isSome = true) (hprint : ∀ m ∈ (some k, v) :: ms, m.2.Printable)
    (hread : ∀ m ∈ (some k, v) :: ms, m.2.ReadsBack) (level outer budget : Nat) (rest : List Char)
    (hbudget : (print level v ++ printMembers level ms).length ≤ budget) :
    readMembers (budget + 1)
        (printText k ++ (':' :: ' ' :: (print level v ++ (printMembers level ms ++
          (newline outer ++ '\x7d' :: rest))))) =
      some ((some k, v) :: ms, rest) := by
  -- as for the items of an array, with the name of each member before its value
  induction ms generalizing k v budget with
  | nil =>
    rw [printMembers, List.append_nil] at hbudget
    have hv := hread _ List.mem_cons_self level budget (newline outer ++ '\x7d' :: rest)
      (endsNumber_cons (.inr rfl) _) hbudget
    obtain ⟨cs, hcs, htext⟩ := readText_printText k (':' :: ' ' :: (print level v ++
      (newline outer ++ '\x7d' :: rest)))
    rw [printMembers, List.nil_append, hcs]
    refine readMembers_last htext (skip_print (hprint _ List.mem_cons_self) ..) hv ?_
    rw [skip_newline]
    exact skip_cons rfl rest
  | cons m ms ih =>
    obtain ⟨name, w⟩ := m
    obtain ⟨hname, hnames'⟩ := List.forall_mem_cons.1 hnames
    obtain ⟨hhead, htail⟩ := List.forall_mem_cons.1 hprint
    obtain ⟨hreadHead, hreadTail⟩ := List.forall_mem_cons.1 hread
    obtain ⟨k', rfl⟩ := Option.isSome_iff_exists.1 hname
    simp only [printMembers, List.length_append, List.length_cons] at hbudget
    have hv := hreadHead level budget
      (printMembers level ((some k', w) :: ms) ++ (newline outer ++ '\x7d' :: rest))
      (endsNumber_cons (.inl rfl) _) (by show (print level v).length ≤ _; omega)
    obtain ⟨budget, rfl⟩ : ∃ smaller, budget = smaller + 1 := ⟨budget - 1, by omega⟩
    have hms := ih hnames' htail hreadTail budget (by rw [List.length_append]; omega)
    obtain ⟨cs, hcs, htext⟩ := readText_printText k (':' :: ' ' :: (print level v ++
      (printMembers level ((some k', w) :: ms) ++ (newline outer ++ '\x7d' :: rest))))
    rw [hcs]
    refine readMembers_cons htext (skip_print hhead ..) hv (skip_cons rfl _) ?_
    show readMembers (budget + 1) (skip (newline level ++ printText k' ++ [':', ' '] ++
      print level w ++ printMembers level ms ++ (newline outer ++ '\x7d' :: rest))) = _
    simp only [List.append_assoc, List.cons_append, List.nil_append]
    rw [skip_newline, skip_printText]
    exact hms

theorem exists_smaller_budget (hv : v.Printable) {level budget : Nat}
    (h : (print level v).length ≤ budget) : ∃ smaller, budget = smaller + 1 := by
  obtain ⟨c, cs, hcs, -⟩ := print_head hv level
  rw [hcs, List.length_cons] at h
  exact ⟨budget - 1, by omega⟩

theorem Value.Printable.readsBack (hv : v.Printable) : v.ReadsBack := by
  induction hv with
  | null =>
    intro level budget rest _ hbudget
    obtain ⟨b, rfl⟩ := exists_smaller_budget .null hbudget
    rfl
  | bool b =>
    intro level budget rest _ hbudget
    obtain ⟨_, rfl⟩ := exists_smaller_budget (.bool b) hbudget
    cases b <;> rfl
  | int i =>
    intro level budget rest hrest hbudget
    obtain ⟨b, rfl⟩ := exists_smaller_budget (.int i) hbudget
    obtain ⟨c, cs, hcs, hc⟩ := printNumber_head i
    have hnumber := readNumber_printNumber i hrest
    rw [hcs, List.cons_append] at hnumber
    rw [Value.ofInt, print, hcs]
    exact readValue_number hc hnumber
  | string s =>
    intro level budget rest _ hbudget
    obtain ⟨b, rfl⟩ := exists_smaller_budget (.string s) hbudget
    obtain ⟨cs, hcs, htext⟩ := readText_printText s rest
    rw [Value.ofString, print, Option.getD_some, hcs]
    exact readValue_text htext
  | @array items hitems ih =>
    intro level budget rest _ hbudget
    cases items with
    | nil =>
      obtain ⟨b, rfl⟩ := exists_smaller_budget (.array hitems) hbudget
      rfl
    | cons v vs =>
      simp only [print, List.length_append, List.length_cons] at hbudget
      obtain ⟨b, rfl⟩ : ∃ b, budget = b + 2 := ⟨budget - 2, by omega⟩
      have hvs := readItems_print hitems ih (level + 1) level b rest
        (by rw [List.length_append]; omega)
      obtain ⟨c, cs, hcs, hspace, hbracket, -⟩ :=
        print_head (hitems v List.mem_cons_self) (level + 1)
      rw [hcs, List.cons_append] at hvs
      rw [print]
      simp only [List.append_assoc, List.cons_append, List.nil_append]
      refine readValue_items ?_ hbracket hvs
      rw [skip_newline, hcs]
      exact skip_cons hspace _
  | @object members hnames hmembers ih =>
    intro level budget rest _ hbudget
    cases members with
    | nil =>
      obtain ⟨b, rfl⟩ := exists_smaller_budget (.object hnames hmembers) hbudget
      rfl
    | cons m ms =>
      obtain ⟨name, v⟩ := m
      obtain ⟨hname, hnames'⟩ := List.forall_mem_cons.1 hnames
      obtain ⟨k, rfl⟩ := Option.isSome_iff_exists.1 hname
      simp only [print, List.length_append, List.length_cons] at hbudget
      obtain ⟨b, rfl⟩ : ∃ b, budget = b + 2 := ⟨budget - 2, by omega⟩
      have hms := readMembers_print hnames' hmembers ih (level + 1) level b rest
        (by rw [List.length_append]; omega)
      rw [print]
      simp only [List.append_assoc, List.cons_append, List.nil_append, Option.getD_some]
      obtain ⟨cs, hcs, -⟩ := readText_printText k (':' :: ' ' :: (print (level + 1) v ++
        (printMembers (level + 1) ms ++ (newline level ++ '\x7d' :: rest))))
      rw [hcs] at hms ⊢
      refine readValue_members ?_ (by decide) hms
      rw [skip_newline]
      exact skip_cons rfl cs

/-- **A printed value is read again.** -/
theorem Value.read?_pretty (hv : v.Printable) : Value.read? v.pretty = some v := by
  have hread := hv.readsBack 0 ((print 0 v).length + 1) [] nofun (Nat.le_succ _)
  have hskip := skip_print hv 0 []
  rw [List.append_nil] at hread hskip
  rw [Value.read?, Value.pretty, String.toList_ofList, hskip]
  simp only [hread, Option.bind_eq_bind, Option.bind_some]
  rfl

end Tint.Json
