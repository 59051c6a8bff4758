import LooperControl.Lib.JsonWriter

/-!
# `json.dumps`

`JsonText.dumps` spells a value out on one line and in ASCII: every other character of a string is
escaped, one beyond the first 65536 as a surrogate pair. Infinities and NaN are spelled out, which
the grammar has no numerals for. The numerals of finite floating-point numbers are a parameter.

* `parse_dumps`: a text is read as the value it was written for, or not at all where there is an
  infinity or a NaN in the value.
* `isPrintable_dumps`: a text has printable ASCII characters only.
-/

/-- The values of a Python program: no key twice in a dictionary, and the finite numbers among the
given ones. -/
inductive Json.Keyed (number : ℚ → Prop) : Json → Prop
  | null : Keyed number .null
  | bool (b : Bool) : Keyed number (.bool b)
  | int (n : ℤ) : Keyed number (.int n)
  | finite {q : ℚ} : number q → Keyed number (.float (.finite q))
  | infinite (negative : Bool) : Keyed number (.float (.infinite negative))
  | nan : Keyed number (.float .nan)
  | str (s : String) : Keyed number (.str s)
  | arr {l : List Json} : (∀ v ∈ l, Keyed number v) → Keyed number (.arr l)
  | obj {l : List (String × Json)} : (l.map Prod.fst).Nodup → (∀ m ∈ l, Keyed number m.2) →
      Keyed number (.obj l)

theorem Json.isFiniteList_eq_all (l : List Json) : isFiniteList l = l.all isFinite := by
  induction l with
  | nil => rfl
  | cons v l ih => rw [isFiniteList, ih, List.all_cons]

theorem Json.isFiniteMembers_eq_all (l : List (String × Json)) :
    isFiniteMembers l = l.all fun m => m.2.isFinite := by
  induction l with
  | nil => rfl
  | cons m l ih => rw [isFiniteMembers, ih, List.all_cons]

namespace JsonText

/-! ### The writer -/

/-- The characters that are escaped by a letter, with the letters. -/
def shortEscapes : List (Char × Char) :=
  [(quote, quote), (backslash, backslash), (Char.ofNat 8, 'b'), (Char.ofNat 12, 'f'),
    (Char.ofNat 10, 'n'), (Char.ofNat 13, 'r'), (Char.ofNat 9, 't')]

/-- The escape of a code unit by its four digits. -/
def escapeUnit (unit : ℕ) : List Char :=
  [backslash, 'u', (unit / 4096 % 16).digitChar, (unit / 256 % 16).digitChar,
    (unit / 16 % 16).digitChar, (unit % 16).digitChar]

/-- The code units of a character. -/
def utf16 (c : Char) : List ℕ :=
  if c.toNat < 0x10000 then [c.toNat]
  else [0xd800 + (c.toNat - 0x10000) / 1024, 0xdc00 + (c.toNat - 0x10000) % 1024]

/-- A character inside a string literal. -/
def asciiChar (c : Char) : List Char :=
  match shortEscapes.lookup c with
  | some e => [backslash, e]
  | none => if 32 ≤ c.toNat ∧ c.toNat < 127 then [c] else (utf16 c).flatMap escapeUnit

/-- A string literal. -/
def dumpsString (s : String) : List Char := quote :: (s.toList.flatMap asciiChar ++ [quote])

/-- Items with commas between them. -/
def commaSeparated : List (List Char) → List Char
  | [] => []
  | [item] => item
  | item :: items => item ++ ',' :: ' ' :: commaSeparated items

variable (spell : ℚ → List Char)

mutual

/-- `json.dumps`. -/
def dumps : Json → List Char
  | .null => ['n', 'u', 'l', 'l']
  | .bool true => ['t', 'r', 'u', 'e']
  | .bool false => ['f', 'a', 'l', 's', 'e']
  | .int n => writeInt n
  | .float (.finite q) => spell q
  | .float (.infinite false) => ['I', 'n', 'f', 'i', 'n', 'i', 't', 'y']
  | .float (.infinite true) => ['-', 'I', 'n', 'f', 'i', 'n', 'i', 't', 'y']
  | .float .nan => ['N', 'a', 'N']
  | .str s => dumpsString s
  | .arr l => '[' :: (commaSeparated (dumpsElements l) ++ [']'])
  | .obj l => '\x7b' :: (commaSeparated (dumpsMembers l) ++ ['\x7d'])

/-- The texts of the elements of a list. -/
def dumpsElements : List Json → List (List Char)
  | [] => []
  | a :: l => dumps a :: dumpsElements l

/-- The texts of the entries of a dictionary. -/
def dumpsMembers : List (String × Json) → List (List Char)
  | [] => []
  | (k, a) :: l => (dumpsString k ++ ':' :: ' ' :: dumps a) :: dumpsMembers l

end

variable {spell} {double : List Char → Double}

theorem dumpsElements_eq_map (l : List Json) : dumpsElements spell l = l.map (dumps spell) := by
  induction l with
  | nil => rfl
  | cons a l ih => rw [dumpsElements, ih, List.map_cons]

theorem dumpsMembers_eq_map (l : List (String × Json)) : dumpsMembers spell l =
    l.map fun m => dumpsString m.1 ++ ':' :: ' ' :: dumps spell m.2 := by
  induction l with
  | nil => rfl
  | cons m l ih => rw [dumpsMembers, ih, List.map_cons]

/-! ### Strings -/

theorem hexUnit?_digitChar {unit : ℕ} (h : unit < 65536) :
    hexUnit? (unit / 4096 % 16).digitChar (unit / 256 % 16).digitChar (unit / 16 % 16).digitChar
      (unit % 16).digitChar = some unit := by
  have hdigit : ∀ d < 16, hexDigit? d.digitChar = some d := by decide
  have hmod : ∀ n : ℕ, hexDigit? (n % 16).digitChar = some (n % 16) := fun n =>
    hdigit _ (Nat.mod_lt _ (by decide))
  simp only [hexUnit?, hmod, Option.bind_eq_bind, Option.bind_some, Option.pure_def,
    Option.some_inj]
  omega

theorem lt_of_mem_utf16 {c : Char} {unit : ℕ} (h : unit ∈ utf16 c) : unit < 65536 := by
  have hvalid : c.toNat.isValidChar := c.valid
  rw [Nat.isValidChar] at hvalid
  rw [utf16] at h
  split at h
  · obtain rfl := List.mem_singleton.mp h
    assumption
  · simp only [List.mem_cons, List.not_mem_nil, or_false] at h
    omega

/-- Escaped code units are read as they were. -/
theorem Literal.escapeUnits {l r : List Char} {units units' : List ℕ} (h : Literal l units r)
    (hunits : ∀ unit ∈ units', unit < 65536) :
    Literal (units'.flatMap escapeUnit ++ l) (units' ++ units) r := by
  induction units' with
  | nil => exact h
  | cons unit units' ih =>
    rw [List.forall_mem_cons] at hunits
    rw [List.flatMap_cons, List.append_assoc]
    exact .unicode (hexUnit?_digitChar hunits.1) (ih hunits.2)

/-- A character is read as its code units. -/
theorem Literal.asciiChar {c : Char} {l r : List Char} {units : List ℕ} (h : Literal l units r) :
    Literal (JsonText.asciiChar c ++ l) (utf16 c ++ units) r := by
  rw [JsonText.asciiChar]
  rcases hlookup : shortEscapes.lookup c with _ | e
  · dsimp only
    split
    · rename_i hplain
      have hne := List.lookup_eq_none_iff.mp hlookup
      have hquote : c ≠ quote := by simpa using hne (quote, quote) (by simp [shortEscapes])
      have hbackslash : c ≠ backslash := by
        simpa using hne (backslash, backslash) (by simp [shortEscapes])
      have hunits : utf16 c = [c.toNat] := if_pos (by omega)
      rw [hunits]
      exact .plain ⟨hquote, hbackslash, hplain.1⟩ h
    · exact h.escapeUnits fun _ => lt_of_mem_utf16
  · have hescapes : ∀ p ∈ shortEscapes, escapes.lookup p.2 = some p.1.toNat ∧ p.1.toNat < 128 := by
      decide
    obtain ⟨l₁, l₂, hsplit, -⟩ := List.lookup_eq_some_iff.mp hlookup
    obtain ⟨hunit, hlow⟩ := hescapes (c, e) (by rw [hsplit]; simp)
    have hunits : utf16 c = [c.toNat] := if_pos (Nat.lt_trans hlow (by decide))
    rw [hunits]
    exact .escape hunit h

/-- A character whose code unit comes first. -/
theorem joinUnits_toNat_cons (c : Char) (units : List ℕ) :
    joinUnits (c.toNat :: units) = c :: joinUnits units := by
  rcases units with _ | ⟨unit, units⟩
  · rw [joinUnits.eq_def]
    dsimp only
    rw [unitChar_toNat, joinUnits]
  · have hvalid : c.toNat.isValidChar := c.valid
    -- No character is a surrogate.
    have hpair : ¬(0xd800 ≤ c.toNat ∧ c.toNat < 0xdc00 ∧ 0xdc00 ≤ unit ∧ unit < 0xe000) := by
      rw [Nat.isValidChar] at hvalid
      omega
    rw [joinUnits, if_neg hpair, unitChar_toNat]

/-- **The code units of characters** are joined to the characters, surrogate pairs included. -/
theorem joinUnits_flatMap_utf16 (l : List Char) : joinUnits (l.flatMap utf16) = l := by
  induction l with
  | nil => rfl
  | cons c l ih =>
    rw [List.flatMap_cons]
    by_cases hlow : c.toNat < 0x10000
    · have hunits : utf16 c = [c.toNat] := if_pos hlow
      rw [hunits, List.singleton_append, joinUnits_toNat_cons, ih]
    · have hvalid : c.toNat.isValidChar := c.valid
      rw [Nat.isValidChar] at hvalid
      have hunits : utf16 c =
          [0xd800 + (c.toNat - 0x10000) / 1024, 0xdc00 + (c.toNat - 0x10000) % 1024] :=
        if_neg hlow
      have hchar : 0x10000 + 1024 * (0xd800 + (c.toNat - 0x10000) / 1024 - 0xd800) +
          (0xdc00 + (c.toNat - 0x10000) % 1024 - 0xdc00) = c.toNat := by omega
      rw [hunits, List.cons_append, List.singleton_append, joinUnits, if_pos (by omega), hchar,
        Char.ofNat_toNat, ih]

/-- **A string** is read as it was. -/
theorem readString_asciiChar (s : String) (tail : List Char) :
    readString (s.toList.flatMap asciiChar ++ quote :: tail) = some (s, tail) := by
  have hliteral : ∀ l : List Char,
      Literal (l.flatMap asciiChar ++ quote :: tail) (l.flatMap utf16) tail := by
    intro l
    induction l with
    | nil => exact .close tail
    | cons c l ih =>
      rw [List.flatMap_cons, List.append_assoc, List.flatMap_cons]
      exact ih.asciiChar
  refine readString_eq_some_iff.mpr ⟨_, hliteral s.toList, ?_⟩
  rw [joinUnits_flatMap_utf16, String.ofList_toList]

/-! ### Items and brackets -/

/-- A text that something is read from, or that it is an error to read from, wherever the text
stands in front of something that no numeral can run on into. -/
def ReadFrom {α : Type} (item : List Char → Option (α × List Char)) (text : List Char)
    (r : Option α) : Prop :=
  Opens text ∧ ∀ l rest, skip l = text ++ rest → (∀ c ∈ rest.head?, isNumeral c = false) →
    item l = r.map fun a => (a, rest)

theorem ItemFrom.readFrom {α : Type} {item : List Char → Option (α × List Char)}
    {text : List Char} {a : α} (h : ItemFrom item text a) : ReadFrom item text (some a) := h

/-- The items take a character each at least. -/
theorem length_le_length_commaSeparated {items : List (List Char)} (h : ∀ t ∈ items, Opens t) :
    items.length ≤ (commaSeparated items).length := by
  fun_induction commaSeparated items with
  | case1 => exact Nat.le_refl 0
  | case2 item =>
    obtain ⟨c, l, rfl, -⟩ := h item List.mem_cons_self
    exact Nat.succ_le_succ (Nat.zero_le _)
  | case3 item items _ ih =>
    rw [List.forall_mem_cons] at h
    have hrest := ih h.2
    simp only [List.length_append, List.length_cons]
    omega

theorem length_le_of_mem_commaSeparated {items : List (List Char)} {item : List Char}
    (h : item ∈ items) : item.length ≤ (commaSeparated items).length := by
  fun_induction commaSeparated items with
  | case1 => cases h
  | case2 item' =>
    obtain rfl := List.mem_singleton.mp h
    exact Nat.le_refl _
  | case3 item' items _ ih =>
    rw [List.length_append, List.length_cons, List.length_cons]
    rcases List.mem_cons.mp h with rfl | hmem
    · omega
    · have hrest := ih hmem
      omega

/-- The fuel that the items of a bracket have left. -/
theorem length_lt_of_mem {first last : Char} {items : List (List Char)} {item : List Char} {n : ℕ}
    (h : (first :: (commaSeparated items ++ [last])).length < n + 1) (hitem : item ∈ items) :
    item.length < n := by
  have hle := length_le_of_mem_commaSeparated hitem
  rw [List.length_cons, List.length_append, List.length_singleton] at h
  omega

theorem length_le_of_opens {first last : Char} {items : List (List Char)} {n : ℕ}
    (h : (first :: (commaSeparated items ++ [last])).length < n + 1)
    (hopens : ∀ t ∈ items, Opens t) : items.length ≤ n := by
  have hle := length_le_length_commaSeparated hopens
  rw [List.length_cons, List.length_append, List.length_singleton] at h
  omega

/-- The first item comes first. -/
theorem commaSeparated_cons (item : List Char) (items : List (List Char)) (tail : List Char) :
    ∃ tail', commaSeparated (item :: items) ++ tail = item ++ tail' := by
  rcases items with _ | ⟨item', items⟩
  · exact ⟨tail, rfl⟩
  · exact ⟨',' :: ' ' :: (commaSeparated (item' :: items) ++ tail), by
      simp only [commaSeparated, List.append_assoc, List.cons_append]⟩

/-- **Items** are read one after the other, up to the closing bracket or the first that cannot be
read. -/
theorem readItems_commaSeparated {α : Type} {item : List Char → Option (α × List Char)}
    {text : α → List Char} {good : α → Bool} {close : Char} (hclose : close = ']' ∨ close = '\x7d')
    {as : List α} (hne : as ≠ [])
    (has : ∀ a ∈ as, ReadFrom item (text a) (if good a then some a else none)) {n : ℕ}
    (hn : as.length ≤ n) {l rest : List Char}
    (hl : skip l = commaSeparated (as.map text) ++ close :: rest) :
    readItems item close n l = if as.all good then some (as, rest) else none := by
  have hblank : isBlank close = false := by rcases hclose with rfl | rfl <;> rfl
  have hnumeral : isNumeral close = false := by rcases hclose with rfl | rfl <;> rfl
  have hcomma : close ≠ ',' := by rcases hclose with rfl | rfl <;> decide
  have hskip : skip (close :: rest) = close :: rest :=
    List.dropWhile_cons_of_neg (p := isBlank) (by rw [hblank]; exact Bool.false_ne_true)
  induction as generalizing n l with
  | nil => exact absurd rfl hne
  | cons a as ih =>
    obtain ⟨n, rfl⟩ : ∃ n', n = n' + 1 :=
      Nat.exists_eq_add_one.mpr (Nat.lt_of_lt_of_le (by simp) hn)
    rw [List.forall_mem_cons] at has
    obtain ⟨⟨-, hread⟩, has⟩ := has
    rw [readItems, List.all_cons]
    rcases as with _ | ⟨b, as⟩
    · rw [hread l (close :: rest) hl (by simpa using hnumeral)]
      rcases good a with _ | _
      · rfl
      · have hnext : expect ',' (close :: rest) = none := by
          rw [expect, hskip]
          simp [hcomma]
        simp [hnext, expect_eq_some_iff.mpr hskip]
    · have hl' : skip l =
          text a ++ (',' :: ' ' :: (commaSeparated ((b :: as).map text) ++ close :: rest)) := by
        rw [hl]
        simp only [List.map_cons, commaSeparated, List.append_assoc, List.cons_append]
      rw [hread l _ hl' (by simp [isNumeral])]
      rcases good a with _ | _
      · rfl
      · have hnext : expect ',' (',' :: ' ' :: (commaSeparated ((b :: as).map text) ++
            close :: rest)) = some (' ' :: (commaSeparated ((b :: as).map text) ++
              close :: rest)) := rfl
        obtain ⟨tail, htail⟩ := commaSeparated_cons (text b) (as.map text) (close :: rest)
        have hopens := (has b List.mem_cons_self).1
        have hrest := ih (List.cons_ne_nil b as) has (Nat.le_of_succ_le_succ hn)
          (l := ' ' :: (commaSeparated ((b :: as).map text) ++ close :: rest)) (by
            rw [List.map_cons, htail]
            exact skip_of_opens hopens tail)
        simp only [if_true, Option.map_some, Option.bind_some, hnext, hrest, Bool.true_and]
        split <;> rfl

/-- **What stands behind an opening bracket** is read as the items, if all of them can be read. -/
theorem read_commaSeparated {α : Type} {item : List Char → Option (α × List Char)}
    {text : α → List Char} {good : α → Bool} {close : Char} (hclose : close = ']' ∨ close = '\x7d')
    {as : List α} (has : ∀ a ∈ as, ReadFrom item (text a) (if good a then some a else none))
    {n : ℕ} (hn : as.length ≤ n) (value : List α → Json) (rest : List Char) :
    (match expect close (commaSeparated (as.map text) ++ close :: rest) with
      | some l => some (value [], l)
      | none => (readItems item close n (commaSeparated (as.map text) ++ close :: rest)).map
          fun r => (value r.1, r.2)) = if as.all good then some (value as, rest) else none := by
  rcases as with _ | ⟨a, as⟩
  · have hend : expect close (close :: rest) = some rest := by
      rw [expect_eq_some_iff]
      rcases hclose with rfl | rfl <;> rfl
    simp [commaSeparated, hend]
  · obtain ⟨tail, htail⟩ := commaSeparated_cons (text a) (as.map text) (close :: rest)
    obtain ⟨c, l, hc, hblank, hbracket, hbrace⟩ := (has a List.mem_cons_self).1
    have hskip : skip (commaSeparated ((a :: as).map text) ++ close :: rest) =
        commaSeparated ((a :: as).map text) ++ close :: rest := by
      rw [List.map_cons, htail]
      exact skip_of_opens (has a List.mem_cons_self).1 tail
    have hopen : expect close (commaSeparated ((a :: as).map text) ++ close :: rest) = none := by
      rw [expect, hskip, List.map_cons, htail, hc]
      rcases hclose with rfl | rfl
      · simp [hbracket]
      · simp [hbrace]
    rw [hopen]
    dsimp only
    rw [readItems_commaSeparated hclose (List.cons_ne_nil a as) has hn hskip]
    split <;> rfl

/-- An entry of a dictionary is read if its value is. -/
theorem readFrom_member {value : List Char → Option (Json × List Char)} {text : List Char}
    {v : Json} {good : Bool} (h : ReadFrom value text (if good then some v else none))
    (key : String) : ReadFrom (readMember value) (dumpsString key ++ ':' :: ' ' :: text)
      (if good then some (key, v) else none) := by
  obtain ⟨hopens, hread⟩ := h
  refine ⟨⟨quote, _, rfl, by decide, by decide, by decide⟩, fun l rest hl hrest => ?_⟩
  have hkey : skip l = quote :: (key.toList.flatMap asciiChar ++
      quote :: ':' :: ' ' :: (text ++ rest)) := by
    rw [hl, dumpsString]
    simp only [List.cons_append, List.append_assoc, List.nil_append]
  have hsep : expect ':' (':' :: ' ' :: (text ++ rest)) = some (' ' :: (text ++ rest)) := rfl
  have hvalue := hread (' ' :: (text ++ rest)) rest (skip_of_opens hopens rest) hrest
  rw [readMember, expect_eq_some_iff.mpr hkey]
  simp only [Option.bind_eq_bind, Option.bind_some, readString_asciiChar, hsep, hvalue]
  rcases good with _ | _ <;> rfl

/-! ### Values -/

/-- A word with which a value starts that cannot be read. -/
theorem readFrom_word {c : Char} {word : List Char}
    (hc : isBlank c = false ∧ c ≠ ']' ∧ c ≠ '\x7d') (hother : c ≠ quote ∧ c ≠ '[' ∧ c ≠ '\x7b')
    (hread : ∀ rest, readScalar double (c :: (word ++ rest)) = none) (n : ℕ) :
    ReadFrom (readValue double (n + 1)) (c :: word) none := by
  refine ⟨⟨c, word, rfl, hc⟩, fun l rest hl _ => ?_⟩
  have hl : skip l = c :: (word ++ rest) := hl
  have hexpect : ∀ d, c ≠ d → expect d l = none := by
    intro d hd
    rw [expect, hl]
    simp [hd]
  rw [readValue, hexpect _ hother.1, hexpect _ hother.2.1, hexpect _ hother.2.2, hl]
  exact hread rest

theorem itemFrom_dumpsString (s : String) (n : ℕ) :
    ItemFrom (readValue double (n + 1)) (dumpsString s) (.str s) := by
  refine ⟨⟨quote, _, rfl, by decide, by decide, by decide⟩, fun l rest hl _ => ?_⟩
  have hl : skip l = quote :: (s.toList.flatMap asciiChar ++ quote :: rest) := by
    rw [hl, dumpsString]
    simp only [List.cons_append, List.append_assoc, List.nil_append]
  rw [readValue_string hl, readString_asciiChar]
  rfl

/-- A list. -/
theorem readFrom_array {text : Json → List Char} {n : ℕ} {l : List Json} (hn : l.length ≤ n)
    (hl : ∀ v ∈ l, ReadFrom (readValue double n) (text v) (if v.isFinite then some v else none)) :
    ReadFrom (readValue double (n + 1)) ('[' :: (commaSeparated (l.map text) ++ [']']))
      (if l.all Json.isFinite then some (.arr l) else none) := by
  refine ⟨⟨'[', _, rfl, by decide, by decide, by decide⟩, fun m rest hm _ => ?_⟩
  have hm : skip m = '[' :: (commaSeparated (l.map text) ++ ']' :: rest) := by
    rw [hm]
    simp only [List.cons_append, List.append_assoc, List.nil_append]
  have hquote : expect quote m = none := by
    rw [expect, hm]
    rfl
  rw [readValue, hquote, expect_eq_some_iff.mpr hm]
  refine (read_commaSeparated (.inl rfl) hl hn .arr rest).trans ?_
  split <;> rfl

/-- A dictionary. -/
theorem readFrom_object {text : String × Json → List Char} {n : ℕ} {l : List (String × Json)}
    (hn : l.length ≤ n)
    (hl : ∀ m ∈ l, ReadFrom (readMember (readValue double n)) (text m)
      (if m.2.isFinite then some m else none)) :
    ReadFrom (readValue double (n + 1)) ('\x7b' :: (commaSeparated (l.map text) ++ ['\x7d']))
      (if l.all fun m => m.2.isFinite then some (object l) else none) := by
  refine ⟨⟨'\x7b', _, rfl, by decide, by decide, by decide⟩, fun m rest hm _ => ?_⟩
  have hm : skip m = '\x7b' :: (commaSeparated (l.map text) ++ '\x7d' :: rest) := by
    rw [hm]
    simp only [List.cons_append, List.append_assoc, List.nil_append]
  have hquote : expect quote m = none := by
    rw [expect, hm]
    rfl
  have hbracket : expect '[' m = none := by
    rw [expect, hm]
    rfl
  rw [readValue, hquote, hbracket, expect_eq_some_iff.mpr hm]
  have hread :=
    @read_commaSeparated _ _ _ (fun m => m.2.isFinite) _ (.inr rfl) _ hl _ hn object rest
  refine hread.trans ?_
  split <;> rfl

/-- **A value** is read as it was if it is finite, and otherwise not at all. The induction is on the
value, with fuel that the text has enough of at every bracket. -/
theorem readFrom_dumps {number : ℚ → Prop}
    (hspell : ∀ q, number q →
      isNumber (spell q) = true ∧ numberValue double (spell q) = .float (.finite q))
    {v : Json} (h : v.Keyed number) {n : ℕ} (hn : (dumps spell v).length < n) :
    ReadFrom (readValue double n) (dumps spell v) (if v.isFinite then some v else none) := by
  obtain ⟨n, rfl⟩ : ∃ n', n = n' + 1 := Nat.exists_eq_add_one.mpr (Nat.zero_lt_of_lt hn)
  induction h generalizing n with
  | null =>
    exact (itemFrom_word (by decide) (by decide) (by simp [readScalar, readWord]) n).readFrom
  | bool b => cases b with
    | false =>
      exact (itemFrom_word (by decide) (by decide) (by simp [readScalar, readWord]) n).readFrom
    | true =>
      exact (itemFrom_word (by decide) (by decide) (by simp [readScalar, readWord]) n).readFrom
  | int m =>
    have hitem : ItemFrom (readValue double (n + 1)) _ _ := itemFrom_number (isNumber_writeInt m) n
    rw [numberValue_writeInt] at hitem
    exact hitem.readFrom
  | finite hq =>
    obtain ⟨hnumber, hvalue⟩ := hspell _ hq
    have hitem : ItemFrom (readValue double (n + 1)) _ _ := itemFrom_number hnumber n
    rw [hvalue] at hitem
    exact hitem.readFrom
  | infinite negative => cases negative with
    | false =>
      refine readFrom_word (by decide) (by decide) ?_ n
      simp [readScalar, readWord, readNumber, isNumeral, isNumber, isWhole, isDigits, unsigned]
    | true =>
      refine readFrom_word (by decide) (by decide) ?_ n
      simp [readScalar, readWord, readNumber, isNumeral, isNumber, isWhole, isDigits, unsigned]
  | nan =>
    refine readFrom_word (by decide) (by decide) ?_ n
    simp [readScalar, readWord, readNumber, isNumeral, isNumber, isWhole, isDigits, unsigned]
  | str s => exact (itemFrom_dumpsString s n).readFrom
  | @arr l _ ih =>
    rw [dumps, dumpsElements_eq_map] at hn ⊢
    rw [Json.isFinite, Json.isFiniteList_eq_all]
    have hl : ∀ v ∈ l, ReadFrom (readValue double n) (dumps spell v)
        (if v.isFinite then some v else none) := by
      intro v hv
      have hlt := length_lt_of_mem hn (List.mem_map_of_mem hv)
      obtain ⟨n, rfl⟩ : ∃ n', n = n' + 1 := Nat.exists_eq_add_one.mpr (Nat.zero_lt_of_lt hlt)
      exact ih v hv n hlt
    refine readFrom_array ?_ hl
    simpa using length_le_of_opens hn (List.forall_mem_map.mpr fun v hv => (hl v hv).1)
  | @obj l hnd _ ih =>
    rw [dumps, dumpsMembers_eq_map] at hn ⊢
    rw [Json.isFinite, Json.isFiniteMembers_eq_all, ← object_of_nodup hnd]
    have hl : ∀ m ∈ l, ReadFrom (readMember (readValue double n))
        (dumpsString m.1 ++ ':' :: ' ' :: dumps spell m.2)
        (if m.2.isFinite then some m else none) := by
      intro m hm
      have hlt := length_lt_of_mem hn (List.mem_map_of_mem hm)
      obtain ⟨n, rfl⟩ : ∃ n', n = n' + 1 := Nat.exists_eq_add_one.mpr (Nat.zero_lt_of_lt hlt)
      rw [List.length_append, List.length_cons, List.length_cons] at hlt
      exact readFrom_member (ih m hm n (by omega)) m.1
    refine readFrom_object ?_ hl
    simpa using length_le_of_opens hn (List.forall_mem_map.mpr fun m hm => (hl m hm).1)

/-- **Reading what `json.dumps` has written** gives the value if it is finite, and is an error if
there is an infinity or a NaN in it. -/
theorem parse_dumps {number : ℚ → Prop}
    (hspell : ∀ q, number q →
      isNumber (spell q) = true ∧ numberValue double (spell q) = .float (.finite q))
    {v : Json} (h : v.Keyed number) :
    parse double (String.ofList (dumps spell v)) = if v.isFinite then some v else none := by
  obtain ⟨hopens, hread⟩ := readFrom_dumps hspell h (Nat.lt_succ_self _)
  have hskip := skip_of_opens hopens []
  rw [parse, String.toList_ofList, hread _ [] (by rwa [List.append_nil] at hskip ⊢) (by simp)]
  split <;> rfl

/-! ### The characters of a text -/

/-- A printable ASCII character. -/
def IsPrintable (c : Char) : Prop := 32 ≤ c.toNat ∧ c.toNat < 127

instance (c : Char) : Decidable (IsPrintable c) := inferInstanceAs (Decidable (_ ∧ _))

theorem isPrintable_of_all {l : List Char} (h : (l.all fun d => decide (IsPrintable d)) = true) :
    ∀ d ∈ l, IsPrintable d := by
  simpa using h

theorem isPrintable_of_isNumeral {c : Char} (h : isNumeral c = true) : IsPrintable c := by
  simp only [isNumeral, Bool.or_eq_true, decide_eq_true_eq] at h
  rcases h with ((((hdigit | rfl) | rfl) | rfl) | rfl) | rfl
  · simp only [Char.isDigit, Bool.and_eq_true, decide_eq_true_eq, ge_iff_le,
      UInt32.le_iff_toNat_le] at hdigit
    have hlow : 48 ≤ c.toNat := hdigit.1
    have hhigh : c.toNat ≤ 57 := hdigit.2
    constructor
    · omega
    · omega
  all_goals decide

theorem isPrintable_asciiChar (c : Char) : ∀ d ∈ asciiChar c, IsPrintable d := by
  have hdigit : ∀ n : ℕ, IsPrintable (n % 16).digitChar := by
    have hall : ∀ d < 16, IsPrintable d.digitChar := by decide
    exact fun n => hall _ (Nat.mod_lt _ (by decide))
  have hunit : ∀ unit, ∀ d ∈ escapeUnit unit, IsPrintable d := by
    intro unit d hd
    simp only [escapeUnit, List.mem_cons, List.not_mem_nil, or_false] at hd
    rcases hd with rfl | rfl | rfl | rfl | rfl | rfl
    · decide
    · decide
    all_goals exact hdigit _
  intro d hd
  rw [asciiChar] at hd
  rcases hlookup : shortEscapes.lookup c with _ | e
  · rw [hlookup] at hd
    dsimp only at hd
    split at hd
    · obtain rfl := List.mem_singleton.mp hd
      assumption
    · obtain ⟨unit, -, hd⟩ := List.mem_flatMap.mp hd
      exact hunit unit d hd
  · have hescapes : ∀ p ∈ shortEscapes, IsPrintable p.2 := by decide
    obtain ⟨l₁, l₂, hsplit, -⟩ := List.lookup_eq_some_iff.mp hlookup
    rw [hlookup] at hd
    simp only [List.mem_cons, List.not_mem_nil, or_false] at hd
    rcases hd with rfl | rfl
    · decide
    · exact hescapes (c, d) (by rw [hsplit]; simp)

theorem isPrintable_dumpsString (s : String) : ∀ d ∈ dumpsString s, IsPrintable d := by
  intro d hd
  simp only [dumpsString, List.mem_cons, List.mem_append, List.mem_flatMap, List.not_mem_nil,
    or_false] at hd
  rcases hd with rfl | ⟨c, -, hd⟩ | rfl
  · decide
  · exact isPrintable_asciiChar c d hd
  · decide

theorem isPrintable_commaSeparated {items : List (List Char)}
    (h : ∀ item ∈ items, ∀ d ∈ item, IsPrintable d) :
    ∀ d ∈ commaSeparated items, IsPrintable d := by
  fun_induction commaSeparated items with
  | case1 => simp
  | case2 item => exact h item List.mem_cons_self
  | case3 item items _ ih =>
    rw [List.forall_mem_cons] at h
    intro d hd
    simp only [List.mem_append, List.mem_cons] at hd
    rcases hd with hd | rfl | rfl | hd
    · exact h.1 d hd
    · decide
    · decide
    · exact ih h.2 d hd

/-- **A text is ASCII**, and has no control characters. -/
theorem isPrintable_dumps {number : ℚ → Prop}
    (hspell : ∀ q, number q → isNumber (spell q) = true) {v : Json} (h : v.Keyed number) :
    ∀ d ∈ dumps spell v, IsPrintable d := by
  have hbrackets : ∀ {first last : Char} {items : List (List Char)}, IsPrintable first →
      IsPrintable last → (∀ item ∈ items, ∀ d ∈ item, IsPrintable d) →
        ∀ d ∈ first :: (commaSeparated items ++ [last]), IsPrintable d := by
    intro first last items hfirst hlast hitems d hd
    simp only [List.mem_cons, List.mem_append, List.not_mem_nil, or_false] at hd
    rcases hd with rfl | hd | rfl
    · exact hfirst
    · exact isPrintable_commaSeparated hitems d hd
    · exact hlast
  induction h with
  | null =>
    rw [dumps]
    exact isPrintable_of_all (by decide)
  | bool b =>
    cases b
    · rw [dumps]
      exact isPrintable_of_all (by decide)
    · rw [dumps]
      exact isPrintable_of_all (by decide)
  | int n =>
    intro d hd
    exact isPrintable_of_isNumeral (isNumeral_of_isNumber (isNumber_writeInt n) d hd)
  | finite hq =>
    intro d hd
    exact isPrintable_of_isNumeral (isNumeral_of_isNumber (hspell _ hq) d hd)
  | infinite negative =>
    cases negative
    · rw [dumps]
      exact isPrintable_of_all (by decide)
    · rw [dumps]
      exact isPrintable_of_all (by decide)
  | nan =>
    rw [dumps]
    exact isPrintable_of_all (by decide)
  | str s => exact isPrintable_dumpsString s
  | @arr l _ ih =>
    rw [dumps, dumpsElements_eq_map]
    exact hbrackets (by decide) (by decide) (List.forall_mem_map.mpr ih)
  | @obj l _ _ ih =>
    rw [dumps, dumpsMembers_eq_map]
    refine hbrackets (by decide) (by decide) (List.forall_mem_map.mpr fun m hm d hd => ?_)
    simp only [List.mem_append, List.mem_cons] at hd
    rcases hd with hd | rfl | rfl | hd
    · exact isPrintable_dumpsString _ d hd
    · decide
    · decide
    · exact ih m hm d hd

end JsonText
