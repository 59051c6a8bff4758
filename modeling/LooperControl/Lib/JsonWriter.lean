import LooperControl.Lib.JsonText

/-!
# Writing JSON texts

`JsonText.write` spells a value out as printers for people do: every item of an array or an object
on a line of its own, indented by its brackets. The numerals of floating-point numbers are a
parameter.

`parse_write`: a text that is written is read as the value it was written for.
-/

/-- The values whose integers, floating-point numbers and keys are among the given ones, with no key
twice in an object. -/
inductive Json.Printable (integer : ℤ → Prop) (number : ℚ → Prop) (key : String → Prop) :
    Json → Prop
  | null : Printable integer number key .null
  | bool (b : Bool) : Printable integer number key (.bool b)
  | int {n : ℤ} : integer n → Printable integer number key (.int n)
  | float {q : ℚ} : number q → Printable integer number key (.float (.finite q))
  | str (s : String) : Printable integer number key (.str s)
  | arr {l : List Json} : (∀ v ∈ l, Printable integer number key v) →
      Printable integer number key (.arr l)
  | obj {l : List (String × Json)} : (l.map Prod.fst).Nodup → (∀ k ∈ l.map Prod.fst, key k) →
      (∀ m ∈ l, Printable integer number key m.2) → Printable integer number key (.obj l)

namespace JsonText

/-! ### The writer -/

/-- A character inside a string literal. -/
def writeChar (c : Char) : List Char :=
  if c = quote ∨ c = backslash then [backslash, c]
  else if c.toNat < 32 then
    [backslash, 'u', '0', '0', (c.toNat / 16).digitChar, (c.toNat % 16).digitChar]
  else [c]

/-- A string literal. -/
def writeString (s : String) : List Char := quote :: (s.toList.flatMap writeChar ++ [quote])

/-- An integer. -/
def writeInt (n : ℤ) : List Char :=
  if n < 0 then '-' :: Nat.toDigits 10 n.natAbs else Nat.toDigits 10 n.natAbs

/-- A line break and the indentation behind it. -/
def newLine (indent : ℕ) : List Char := '\r' :: '\n' :: List.replicate indent ' '

/-- Items with commas between them, each on a line of its own. -/
def writeItems (indent : ℕ) : List (List Char) → List Char
  | [] => []
  | [item] => newLine indent ++ item
  | item :: items => newLine indent ++ (item ++ ',' :: writeItems indent items)

/-- What stands behind an opening bracket: the items and the closing one. -/
def writeBody (close : Char) (indent : ℕ) (items : List (List Char)) : List Char :=
  writeItems (indent + 2) items ++ (newLine indent ++ [close])

variable (spell : ℚ → List Char)

mutual

/-- The text of a value. Infinities and NaN have none and are written as an empty value. -/
def write (indent : ℕ) : Json → List Char
  | .null => ['n', 'u', 'l', 'l']
  | .bool true => ['t', 'r', 'u', 'e']
  | .bool false => ['f', 'a', 'l', 's', 'e']
  | .int n => writeInt n
  | .float (.finite q) => spell q
  | .float _ => ['n', 'u', 'l', 'l']
  | .str s => writeString s
  | .arr l => '[' :: writeBody ']' indent (writeElements (indent + 2) l)
  | .obj l => '\x7b' :: writeBody '\x7d' indent (writeMembers (indent + 2) l)

/-- The texts of the elements of an array. -/
def writeElements (indent : ℕ) : List Json → List (List Char)
  | [] => []
  | a :: l => write indent a :: writeElements indent l

/-- The texts of the members of an object. -/
def writeMembers (indent : ℕ) : List (String × Json) → List (List Char)
  | [] => []
  | (k, a) :: l => (writeString k ++ ':' :: ' ' :: write indent a) :: writeMembers indent l

end

variable {spell} {double : List Char → Double}

theorem writeElements_eq_map (indent : ℕ) (l : List Json) :
    writeElements spell indent l = l.map (write spell indent) := by
  induction l with
  | nil => rfl
  | cons a l ih => rw [writeElements, ih, List.map_cons]

theorem writeMembers_eq_map (indent : ℕ) (l : List (String × Json)) :
    writeMembers spell indent l =
      l.map fun m => writeString m.1 ++ ':' :: ' ' :: write spell indent m.2 := by
  induction l with
  | nil => rfl
  | cons m l ih => rw [writeMembers, ih, List.map_cons]

/-! ### Strings -/

/-- A written character is read as its code unit. -/
theorem Literal.writeChar {c : Char} {l r : List Char} {units : List ℕ} (h : Literal l units r) :
    Literal (JsonText.writeChar c ++ l) (c.toNat :: units) r := by
  have hhex : ∀ n < 32, hexUnit? '0' '0' (n / 16).digitChar (n % 16).digitChar = some n := by
    decide
  rw [JsonText.writeChar]
  split
  · rename_i hescape
    rcases hescape with rfl | rfl
    · exact .escape rfl h
    · exact .escape rfl h
  split
  · rename_i hcontrol
    exact .unicode (hhex _ hcontrol) h
  · rename_i hescape hcontrol
    exact .plain ⟨(not_or.mp hescape).1, (not_or.mp hescape).2, Nat.le_of_not_lt hcontrol⟩ h

/-- **A written string** is read as it was. -/
theorem readString_writeChar (s : String) (tail : List Char) :
    readString (s.toList.flatMap writeChar ++ quote :: tail) = some (s, tail) := by
  have hliteral : ∀ l : List Char,
      Literal (l.flatMap writeChar ++ quote :: tail) (l.map Char.toNat) tail := by
    intro l
    induction l with
    | nil => exact .close tail
    | cons c l ih =>
      rw [List.flatMap_cons, List.append_assoc]
      exact ih.writeChar
  refine readString_eq_some_iff.mpr ⟨_, hliteral s.toList, ?_⟩
  rw [joinUnits_map_toNat, String.ofList_toList]

/-! ### Integers -/

theorem isNumber_writeInt (n : ℤ) : isNumber (writeInt n) = true := by
  rw [writeInt]
  split
  · rw [isNumber_neg (head?_toDigits_ne_minus _)]
    exact isNumber_toDigits _
  · exact isNumber_toDigits _

/-- **A written integer** is read as it was. -/
theorem numberValue_writeInt (n : ℤ) : numberValue double (writeInt n) = .int n := by
  rw [writeInt]
  split
  · rename_i hneg
    have hdigits : (Nat.toDigits 10 n.natAbs).all Char.isDigit = true :=
      List.all_eq_true.mpr fun c => isDigit_of_mem_toDigits
    have hvalue : numberValue double ('-' :: Nat.toDigits 10 n.natAbs) =
        .int (-(Nat.ofDigitChars 10 (Nat.toDigits 10 n.natAbs) 0 : ℕ)) := by
      rw [numberValue]
      exact if_pos hdigits
    rw [hvalue, Nat.ofDigitChars_ten_toDigits, Int.ofNat_natAbs_of_nonpos (Int.le_of_lt hneg),
      Int.neg_neg]
  · rename_i hpos
    rw [numberValue_toDigits, Int.natAbs_of_nonneg (Int.not_lt.mp hpos)]

/-! ### Items and brackets -/

/-- A text that a value may start with: no blank and no closing bracket. -/
def Opens (text : List Char) : Prop :=
  ∃ c l, text = c :: l ∧ isBlank c = false ∧ c ≠ ']' ∧ c ≠ '\x7d'

/-- A text that an item is read from, wherever it stands in front of something that no numeral can
run on into. -/
def ItemFrom {α : Type} (item : List Char → Option (α × List Char)) (text : List Char) (a : α) :
    Prop :=
  Opens text ∧ ∀ l rest, skip l = text ++ rest → (∀ c ∈ rest.head?, isNumeral c = false) →
    item l = some (a, rest)

theorem skip_newLine (indent : ℕ) (l : List Char) : skip (newLine indent ++ l) = skip l := by
  refine List.dropWhile_append_of_pos fun c hc => ?_
  simp only [newLine, List.mem_cons, List.mem_replicate] at hc
  rcases hc with rfl | rfl | ⟨-, rfl⟩ <;> rfl

/-- A closing bracket on a line of its own. -/
theorem skip_newLine_close {close : Char} (hclose : close = ']' ∨ close = '\x7d') (indent : ℕ)
    (rest : List Char) : skip (newLine indent ++ close :: rest) = close :: rest := by
  rw [skip_newLine]
  rcases hclose with rfl | rfl <;> rfl

theorem skip_of_opens {text : List Char} (h : Opens text) (rest : List Char) :
    skip (text ++ rest) = text ++ rest := by
  obtain ⟨c, l, rfl, hblank, -⟩ := h
  exact List.dropWhile_cons_of_neg (p := isBlank) (by rw [hblank]; exact Bool.false_ne_true)

/-- The items take a character each at least. -/
theorem length_le_length_writeItems (indent : ℕ) (items : List (List Char)) :
    items.length ≤ (writeItems indent items).length := by
  fun_induction writeItems indent items with
  | case1 => exact Nat.le_refl 0
  | case2 item =>
    simp only [newLine, List.length_append, List.length_cons, List.length_nil]
    omega
  | case3 item items _ ih =>
    simp only [newLine, List.length_append, List.length_cons] at ih ⊢
    omega

theorem length_le_of_mem_writeItems (indent : ℕ) {items : List (List Char)} {item : List Char}
    (h : item ∈ items) : item.length ≤ (writeItems indent items).length := by
  fun_induction writeItems indent items with
  | case1 => cases h
  | case2 item' =>
    obtain rfl := List.mem_singleton.mp h
    rw [List.length_append]
    exact Nat.le_add_left _ _
  | case3 item' items _ ih =>
    rw [List.length_append, List.length_append, List.length_cons]
    rcases List.mem_cons.mp h with rfl | hmem
    · omega
    · have hrest := ih hmem
      omega

/-- **Written items** are read one after the other, up to the closing bracket. -/
theorem readItems_writeItems {α : Type} {item : List Char → Option (α × List Char)}
    {text : α → List Char} {close : Char} (hclose : close = ']' ∨ close = '\x7d')
    {indent outer : ℕ} {as : List α} (hne : as ≠ []) (has : ∀ a ∈ as, ItemFrom item (text a) a)
    {n : ℕ} (hn : as.length ≤ n) (rest : List Char) :
    readItems item close n (writeItems indent (as.map text) ++ (newLine outer ++ close :: rest)) =
      some (as, rest) := by
  induction as generalizing n with
  | nil => exact absurd rfl hne
  | cons a as ih =>
    obtain ⟨n, rfl⟩ : ∃ n', n = n' + 1 :=
      Nat.exists_eq_add_one.mpr (Nat.lt_of_lt_of_le (by simp) hn)
    rw [List.forall_mem_cons] at has
    obtain ⟨⟨hopens, hread⟩, has⟩ := has
    have hskip : ∀ tail, skip (newLine indent ++ text a ++ tail) = text a ++ tail := by
      intro tail
      rw [List.append_assoc, skip_newLine, skip_of_opens hopens]
    rw [readItems_succ]
    rcases as with _ | ⟨b, as⟩
    · refine ⟨_, _, hread _ _ (hskip _) (by simp [newLine, isNumeral]), .inr ⟨?_, ?_, rfl⟩⟩
      · rw [expect, skip_newLine_close hclose]
        rcases hclose with rfl | rfl <;> rfl
      · rw [expect_eq_some_iff, skip_newLine_close hclose]
    · refine ⟨_, _, hread _ (',' :: (writeItems indent ((b :: as).map text) ++
        (newLine outer ++ close :: rest))) ?_ (by simp [isNumeral]), .inl ⟨_, _, rfl,
          ih (List.cons_ne_nil _ _) has (Nat.le_of_succ_le_succ hn), rfl⟩⟩
      rw [← hskip]
      simp only [List.map_cons, writeItems, List.append_assoc, List.cons_append]

/-- **What is written behind an opening bracket** is read as the items. -/
theorem read_writeBody {α : Type} {item : List Char → Option (α × List Char)}
    {text : α → List Char} {close : Char} (hclose : close = ']' ∨ close = '\x7d') {as : List α}
    (has : ∀ a ∈ as, ItemFrom item (text a) a) {n indent : ℕ} (hn : as.length ≤ n)
    (value : List α → Json) (rest : List Char) :
    (match expect close (writeBody close indent (as.map text) ++ rest) with
      | some l => some (value [], l)
      | none => (readItems item close n (writeBody close indent (as.map text) ++ rest)).map
          fun r => (value r.1, r.2)) = some (value as, rest) := by
  have hbody : writeBody close indent (as.map text) ++ rest =
      writeItems (indent + 2) (as.map text) ++ (newLine indent ++ close :: rest) := by
    simp only [writeBody, List.append_assoc, List.singleton_append]
  rw [hbody]
  rcases as with _ | ⟨a, as⟩
  · have hend : expect close (newLine indent ++ close :: rest) = some rest := by
      rw [expect_eq_some_iff, skip_newLine_close hclose]
    simp only [List.map_nil, writeItems, List.nil_append, hend]
  · have hopen : expect close (writeItems (indent + 2) ((a :: as).map text) ++
        (newLine indent ++ close :: rest)) = none := by
      -- The first character behind the blanks is that of the first item.
      obtain ⟨⟨c, l, hc, hblank, hbracket, hbrace⟩, -⟩ := has a List.mem_cons_self
      have hskip : ∃ m, skip (writeItems (indent + 2) ((a :: as).map text) ++
          (newLine indent ++ close :: rest)) = c :: m := by
        rcases as with _ | ⟨b, as⟩
        all_goals
          simp only [List.map_cons, List.map_nil, writeItems, List.append_assoc, skip_newLine, hc,
            List.cons_append]
          exact ⟨_, List.dropWhile_cons_of_neg (p := isBlank)
            (by rw [hblank]; exact Bool.false_ne_true)⟩
      obtain ⟨m, hm⟩ := hskip
      rw [expect, hm]
      rcases hclose with rfl | rfl
      · simp [hbracket]
      · simp [hbrace]
    simp only [hopen, readItems_writeItems hclose (List.cons_ne_nil a as) has hn, Option.map_some]

/-- A written member. -/
theorem itemFrom_member {value : List Char → Option (Json × List Char)} {text : List Char}
    {v : Json} (h : ItemFrom value text v) (key : String) :
    ItemFrom (readMember value) (writeString key ++ ':' :: ' ' :: text) (key, v) := by
  obtain ⟨hopens, hread⟩ := h
  refine ⟨⟨quote, _, rfl, by decide, by decide, by decide⟩, fun l rest hl hrest => ?_⟩
  have hkey : skip l = quote :: (key.toList.flatMap writeChar ++
      quote :: ':' :: ' ' :: (text ++ rest)) := by
    rw [hl, writeString]
    simp only [List.cons_append, List.append_assoc, List.nil_append]
  have hsep : expect ':' (':' :: ' ' :: (text ++ rest)) = some (' ' :: (text ++ rest)) := rfl
  have hvalue : value (' ' :: (text ++ rest)) = some (v, rest) :=
    hread _ _ (skip_of_opens hopens rest) hrest
  rw [readMember, expect_eq_some_iff.mpr hkey]
  simp only [Option.bind_eq_bind, Option.bind_some, readString_writeChar, hsep, hvalue,
    Option.pure_def]

/-! ### Values -/

theorem opens_of_isNumber {l : List Char} (h : isNumber l = true) : Opens l := by
  obtain ⟨c, m, rfl, hc⟩ := head_of_isNumber h
  refine ⟨c, m, rfl, ?_⟩
  rcases hc with hdigit | rfl
  · simp only [Char.isDigit, Bool.and_eq_true, decide_eq_true_eq, ge_iff_le,
      UInt32.le_iff_toNat_le] at hdigit
    have hlow : 48 ≤ c.toNat := hdigit.1
    have hhigh : c.toNat ≤ 57 := hdigit.2
    refine ⟨?_, ?_, ?_⟩
    · simp only [isBlank, Bool.or_eq_false_iff, decide_eq_false_iff_not]
      omega
    · rintro rfl
      exact absurd hhigh (by decide)
    · rintro rfl
      exact absurd hhigh (by decide)
  · exact ⟨rfl, by decide, by decide⟩

theorem itemFrom_number {l : List Char} (h : isNumber l = true) (n : ℕ) :
    ItemFrom (readValue double (n + 1)) l (numberValue double l) :=
  ⟨opens_of_isNumber h, fun _ _ hl hrest => readValue_number h hl hrest⟩

/-- A word is read if it is the scalar at the front of its text. -/
theorem itemFrom_word {c : Char} {word : List Char} {v : Json}
    (hc : isBlank c = false ∧ c ≠ ']' ∧ c ≠ '\x7d') (hother : c ≠ quote ∧ c ≠ '[' ∧ c ≠ '\x7b')
    (hread : ∀ rest, readScalar double (c :: (word ++ rest)) = some (v, rest)) (n : ℕ) :
    ItemFrom (readValue double (n + 1)) (c :: word) v := by
  refine ⟨⟨c, word, rfl, hc⟩, fun l rest hl _ => ?_⟩
  have hl : skip l = c :: (word ++ rest) := hl
  have hexpect : ∀ d, c ≠ d → expect d l = none := by
    intro d hd
    rw [expect, hl]
    simp [hd]
  rw [readValue, hexpect _ hother.1, hexpect _ hother.2.1, hexpect _ hother.2.2, hl]
  exact hread rest

theorem itemFrom_string (s : String) (n : ℕ) :
    ItemFrom (readValue double (n + 1)) (writeString s) (.str s) := by
  refine ⟨⟨quote, _, rfl, by decide, by decide, by decide⟩, fun l rest hl _ => ?_⟩
  have hl : skip l = quote :: (s.toList.flatMap writeChar ++ quote :: rest) := by
    rw [hl, writeString]
    simp only [List.cons_append, List.append_assoc, List.nil_append]
  rw [readValue_string hl, readString_writeChar]
  rfl

/-- A written array. -/
theorem itemFrom_array {text : Json → List Char} {n indent : ℕ} {l : List Json}
    (hn : l.length ≤ n) (hl : ∀ v ∈ l, ItemFrom (readValue double n) (text v) v) :
    ItemFrom (readValue double (n + 1)) ('[' :: writeBody ']' indent (l.map text)) (.arr l) := by
  refine ⟨⟨'[', _, rfl, by decide, by decide, by decide⟩, fun m rest hm _ => ?_⟩
  have hquote : expect quote m = none := by
    rw [expect, hm]
    rfl
  rw [readValue, hquote, expect_eq_some_iff.mpr hm]
  exact read_writeBody (.inl rfl) hl hn .arr rest

/-- A written object. -/
theorem itemFrom_object {text : String × Json → List Char} {n indent : ℕ}
    {l : List (String × Json)} (hn : l.length ≤ n)
    (hl : ∀ m ∈ l, ItemFrom (readMember (readValue double n)) (text m) m) :
    ItemFrom (readValue double (n + 1)) ('\x7b' :: writeBody '\x7d' indent (l.map text))
      (object l) := by
  refine ⟨⟨'\x7b', _, rfl, by decide, by decide, by decide⟩, fun m rest hm _ => ?_⟩
  have hquote : expect quote m = none := by
    rw [expect, hm]
    rfl
  have hbracket : expect '[' m = none := by
    rw [expect, hm]
    rfl
  rw [readValue, hquote, hbracket, expect_eq_some_iff.mpr hm]
  exact read_writeBody (.inr rfl) hl hn object rest

/-- The fuel that the items of a bracket have left. -/
private theorem fuel_of_writeBody {close : Char} {indent n : ℕ} {items : List (List Char)}
    (h : (writeBody close indent items).length < n) :
    items.length ≤ n ∧ ∀ item ∈ items, item.length < n := by
  rw [writeBody, List.length_append] at h
  have hlength := length_le_length_writeItems (indent + 2) items
  refine ⟨by omega, fun item hitem => ?_⟩
  have hle := length_le_of_mem_writeItems (indent + 2) hitem
  omega

/-- **A written value** is read as it was, if its numerals are. The induction is on the value, with
fuel that the text has enough of at every bracket. -/
theorem itemFrom_write {integer : ℤ → Prop} {number : ℚ → Prop} {key : String → Prop}
    (hspell : ∀ q, number q →
      isNumber (spell q) = true ∧ numberValue double (spell q) = .float (.finite q))
    {v : Json} (h : v.Printable integer number key) {indent n : ℕ}
    (hn : (write spell indent v).length < n) :
    ItemFrom (readValue double n) (write spell indent v) v := by
  obtain ⟨n, rfl⟩ : ∃ n', n = n' + 1 := Nat.exists_eq_add_one.mpr (Nat.zero_lt_of_lt hn)
  induction h generalizing indent n with
  | null => exact itemFrom_word (by decide) (by decide) (by simp [readScalar, readWord]) n
  | bool b => cases b with
    | false => exact itemFrom_word (by decide) (by decide) (by simp [readScalar, readWord]) n
    | true => exact itemFrom_word (by decide) (by decide) (by simp [readScalar, readWord]) n
  | int _ =>
    rename_i m _
    have hitem : ItemFrom (readValue double (n + 1)) _ _ := itemFrom_number (isNumber_writeInt m) n
    rwa [numberValue_writeInt] at hitem
  | float hq =>
    obtain ⟨hnumber, hvalue⟩ := hspell _ hq
    have hitem : ItemFrom (readValue double (n + 1)) _ _ := itemFrom_number hnumber n
    rwa [hvalue] at hitem
  | str s => exact itemFrom_string s n
  | @arr l _ ih =>
    rw [write, writeElements_eq_map] at hn ⊢
    obtain ⟨hlength, hfuel⟩ := fuel_of_writeBody (Nat.lt_of_succ_lt_succ hn)
    refine itemFrom_array (by rwa [List.length_map] at hlength) fun v hv => ?_
    have hlt := hfuel _ (List.mem_map_of_mem hv)
    obtain ⟨n, rfl⟩ : ∃ n', n = n' + 1 := Nat.exists_eq_add_one.mpr (Nat.zero_lt_of_lt hlt)
    exact ih v hv n hlt
  | @obj l hnd _ _ ih =>
    rw [write, writeMembers_eq_map] at hn ⊢
    obtain ⟨hlength, hfuel⟩ := fuel_of_writeBody (Nat.lt_of_succ_lt_succ hn)
    rw [← object_of_nodup hnd]
    refine itemFrom_object (by rwa [List.length_map] at hlength) fun m hm => ?_
    have hlt := hfuel _ (List.mem_map_of_mem hm)
    obtain ⟨n, rfl⟩ : ∃ n', n = n' + 1 := Nat.exists_eq_add_one.mpr (Nat.zero_lt_of_lt hlt)
    rw [List.length_append, List.length_cons, List.length_cons] at hlt
    exact itemFrom_member (ih m hm n (by omega)) m.1

/-- **Round trip.** A text that is written is read as the value it was written for. -/
theorem parse_write {integer : ℤ → Prop} {number : ℚ → Prop} {key : String → Prop}
    (hspell : ∀ q, number q →
      isNumber (spell q) = true ∧ numberValue double (spell q) = .float (.finite q))
    {v : Json} (h : v.Printable integer number key) :
    parse double (String.ofList (write spell 0 v)) = some v := by
  obtain ⟨hopens, hread⟩ := itemFrom_write hspell h (Nat.lt_succ_self _)
  have hskip := skip_of_opens hopens []
  rw [parse, String.toList_ofList, hread _ [] (by rwa [List.append_nil] at hskip ⊢) (by simp)]
  rfl

end JsonText
