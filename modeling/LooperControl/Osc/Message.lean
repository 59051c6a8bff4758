import LooperControl.Lib.Fallible
import LooperControl.Osc.Types

/-!
# `OscMessage`

A datagram is read as an address, a string of type tags that begins with a comma, and the values
that the tags announce. Brackets among the tags nest arrays, which the code keeps track of with a
stack.

* `parse`: the constructor.
* `Params`: the grammar of tags and values, without a stack.
* `parse_eq_ok_iff`: the constructor accepts what has an address and is in the grammar, nothing
  else, and its parameters are those of the grammar.
-/

namespace LooperControl

open Slice OscTypes Fallible

/-- `OscMessage`: its datagram, `_address_regexp` and `_parameters`. -/
structure OscMessage where
  dgram : Bytes
  address : String
  params : List OscValue

namespace OscMessage

/-- `dgram_is_message`. -/
def dgramIsMessage (dgram : Bytes) : Bool := dgram.head? == some 47

/-- The value of a parameter that is no bracket; none of a type that is not handled. -/
def readParam (dgram : Bytes) (param : Char) (index : ℤ) :
    Except OscExc (Option (OscValue × ℤ)) :=
  if param = 'i' then (getInt dgram index).map fun r => some (.int r.1, r.2)
  else if param = 'h' then (getInt64 dgram index).map fun r => some (.int r.1, r.2)
  else if param = 'f' then (getFloat dgram index).map fun r => some (.float r.1, r.2)
  else if param = 'd' then (getDouble dgram index).map fun r => some (.float r.1, r.2)
  else if param = 's' then (getString dgram index).map fun r => some (.str r.1, r.2)
  else if param = 'b' then (getBlob dgram index).map fun r => some (.bytes r.1, r.2)
  else if param = 'r' then (getRgba dgram index).map fun r => some (.int r.1, r.2)
  else if param = 'm' then (getMidi dgram index).map fun r =>
    some (.tuple (r.1.map fun (n : ℕ) => .int n), r.2)
  else if param = 't' then (getTimetag dgram index).map fun r => some (.time r.1.1 r.1.2, r.2)
  else if param = 'T' then .ok (some (.bool true, index))
  else if param = 'F' then .ok (some (.bool false, index))
  else if param = 'N' then .ok (some (.none, index))
  else .ok none

/-- Where the loop over the tags stands: `param_stack`, innermost array first, and the index. -/
structure Loop where
  stack : List (List OscValue)
  index : ℤ

/-- One round of the loop over the tags. -/
def paramStep (dgram : Bytes) (s : Loop) (param : Char) : Except OscExc Loop :=
  match s.stack with
  | [] => .error .messageParse
  | array :: outer =>
    if param = '[' then .ok { s with stack := [] :: array :: outer }
    else if param = ']' then
      match outer with
      | [] => .error .messageParse
      | enclosing :: outer => .ok { s with stack := (enclosing ++ [.list array]) :: outer }
    else
      (readParam dgram param s.index).map fun r =>
        match r with
        | some (val, index) => ⟨(array ++ [val]) :: outer, index⟩
        | none => s

/-- The parameters that the tags announce. -/
def parseParams (dgram : Bytes) (typeTag : List Char) (index : ℤ) :
    Except OscExc (List OscValue) :=
  (typeTag.foldlM (paramStep dgram) ⟨[[]], index⟩).bind fun s =>
    match s.stack with
    | [params] => .ok params
    | _ => .error .messageParse

/-- The body of the `try` in `_parse_datagram`. -/
def parseDatagram (dgram : Bytes) : Except OscExc OscMessage :=
  (getString dgram 0).bind fun (address, index) =>
    if sliceFrom dgram index = [] then .ok ⟨dgram, address, []⟩
    else
      (getString dgram index).bind fun (typeTag, index) =>
        match typeTag.toList with
        | ',' :: typeTag => (parseParams dgram typeTag index).map fun params =>
            ⟨dgram, address, params⟩
        | _ => .error .messageParse

/-- An exception that leaves a `try` which turns `osc_types.ParseError` into another one. -/
def raisedAs (parseError : OscExc) : OscExc → OscExc
  | .typesParse => parseError
  | e => e

/-- `OscMessage(dgram)`. -/
def parse (dgram : Bytes) : Except OscExc OscMessage :=
  (parseDatagram dgram).mapError (raisedAs .messageParse)

/-! ### The grammar -/

/-- What tags announce from an index on, and the index behind it. -/
inductive Params (dgram : Bytes) : List Char → ℤ → List OscValue → ℤ → Prop
  | nil (i : ℤ) : Params dgram [] i [] i
  | value {param : Char} {tags : List Char} {i j k : ℤ} {val : OscValue} {vals : List OscValue}
      (hbracket : param ≠ '[' ∧ param ≠ ']') (hread : readParam dgram param i = .ok (some (val, j)))
      (h : Params dgram tags j vals k) : Params dgram (param :: tags) i (val :: vals) k
  | unhandled {param : Char} {tags : List Char} {i k : ℤ} {vals : List OscValue}
      (hbracket : param ≠ '[' ∧ param ≠ ']') (hread : readParam dgram param i = .ok none)
      (h : Params dgram tags i vals k) : Params dgram (param :: tags) i vals k
  | array {inner tags : List Char} {i j k : ℤ} {array vals : List OscValue}
      (harray : Params dgram inner i array j) (h : Params dgram tags j vals k) :
      Params dgram ('[' :: inner ++ ']' :: tags) i (.list array :: vals) k

variable {dgram : Bytes}

/-- One after the other. -/
theorem Params.append {tags tags' : List Char} {i j k : ℤ} {vals vals' : List OscValue}
    (h : Params dgram tags i vals j) (h' : Params dgram tags' j vals' k) :
    Params dgram (tags ++ tags') i (vals ++ vals') k := by
  induction h with
  | nil i => exact h'
  | value hbracket hread _ ih => exact .value hbracket hread (ih h')
  | unhandled hbracket hread _ ih => exact .unhandled hbracket hread (ih h')
  | array harray _ _ ih =>
    rw [List.append_assoc, List.cons_append]
    exact .array harray (ih h')

/-- What is in the grammar is read into the array on top of the stack. -/
theorem foldlM_of_params {tags : List Char} {i j : ℤ} {vals : List OscValue}
    (h : Params dgram tags i vals j) (array : List OscValue) (outer : List (List OscValue)) :
    tags.foldlM (paramStep dgram) ⟨array :: outer, i⟩ = .ok ⟨(array ++ vals) :: outer, j⟩ := by
  induction h generalizing array outer with
  | nil i =>
    rw [List.append_nil]
    rfl
  | @value param tags i j k val vals hbracket hread _ ih =>
    have hstep : paramStep dgram ⟨array :: outer, i⟩ param =
        .ok ⟨(array ++ [val]) :: outer, j⟩ := by
      simp only [paramStep, if_neg hbracket.1, if_neg hbracket.2, hread]
      rfl
    rw [List.foldlM_cons, hstep, List.append_cons array val vals]
    exact ih _ _
  | @unhandled param tags i k vals hbracket hread _ ih =>
    have hstep : paramStep dgram ⟨array :: outer, i⟩ param = .ok ⟨array :: outer, i⟩ := by
      simp only [paramStep, if_neg hbracket.1, if_neg hbracket.2, hread]
      rfl
    rw [List.foldlM_cons, hstep]
    exact ih _ _
  | @array inner tags i j k array' vals _ _ ihinner ih =>
    have hopen : paramStep dgram ⟨array :: outer, i⟩ '[' = .ok ⟨[] :: array :: outer, i⟩ := by
      simp only [paramStep, if_true]
    have hclose : paramStep dgram ⟨array' :: array :: outer, j⟩ ']' =
        .ok ⟨(array ++ [.list array']) :: outer, j⟩ := by
      simp [paramStep]
    rw [List.cons_append, List.foldlM_cons, hopen]
    change (inner ++ ']' :: tags).foldlM (paramStep dgram) ⟨[] :: array :: outer, i⟩ = _
    rw [List.foldlM_append, ihinner, List.nil_append]
    change (']' :: tags).foldlM (paramStep dgram) ⟨array' :: array :: outer, j⟩ = _
    rw [List.foldlM_cons, hclose, List.append_cons array (.list array') vals]
    exact ih _ _

/-- Tags that close the open arrays, one after the other, and end in the outermost one. -/
def Closes (dgram : Bytes) :
    List (List OscValue) → List Char → ℤ → List OscValue → ℤ → Prop
  | [], _, _, _, _ => False
  | [array], tags, i, params, k => ∃ vals, Params dgram tags i vals k ∧ params = array ++ vals
  | array :: enclosing :: outer, tags, i, params, k =>
    ∃ inner tags' vals j, tags = inner ++ ']' :: tags' ∧ Params dgram inner i vals j ∧
      Closes dgram ((enclosing ++ [.list (array ++ vals)]) :: outer) tags' j params k
termination_by stack => stack.length

/-- One tag in front that adds values to the array on top of the stack. -/
theorem Closes.cons {array vals : List OscValue} {outer : List (List OscValue)}
    {front tags : List Char} {i j k : ℤ} {params : List OscValue}
    (hfront : ∀ {tags : List Char} {vals' : List OscValue} {k : ℤ}, Params dgram tags j vals' k →
      Params dgram (front ++ tags) i (vals ++ vals') k)
    (h : Closes dgram ((array ++ vals) :: outer) tags j params k) :
    Closes dgram (array :: outer) (front ++ tags) i params k := by
  rcases outer with _ | ⟨enclosing, outer⟩
  · rw [Closes] at h ⊢
    obtain ⟨vals', hvals, rfl⟩ := h
    exact ⟨vals ++ vals', hfront hvals, List.append_assoc _ _ _⟩
  · rw [Closes] at h ⊢
    obtain ⟨inner, tags', vals', m, rfl, hinner, hrest⟩ := h
    rw [List.append_assoc] at hrest
    exact ⟨front ++ inner, tags', vals ++ vals', m, (List.append_assoc _ _ _).symm, hfront hinner,
      hrest⟩

/-- What the loop reads, it reads by the grammar. -/
theorem closes_of_foldlM {tags : List Char} {stack : List (List OscValue)} {i k : ℤ}
    {params : List OscValue}
    (h : tags.foldlM (paramStep dgram) ⟨stack, i⟩ = .ok ⟨[params], k⟩) :
    Closes dgram stack tags i params k := by
  induction tags generalizing stack i with
  | nil =>
    rw [List.foldlM_nil] at h
    obtain ⟨rfl, rfl⟩ := Loop.mk.inj (Except.ok.inj h)
    rw [Closes]
    exact ⟨[], .nil i, (List.append_nil _).symm⟩
  | cons param tags ih =>
    rw [foldlM_cons, bind_eq_ok_iff] at h
    obtain ⟨s, hstep, hrest⟩ := h
    have hcloses := ih hrest
    rcases stack with _ | ⟨array, outer⟩
    · cases hstep
    simp only [paramStep] at hstep
    split at hstep
    · -- An array is opened: it is closed further on.
      rename_i hopen
      obtain rfl := hopen
      obtain rfl := Except.ok.inj hstep
      rw [Closes] at hcloses
      obtain ⟨inner, tags', vals, j, rfl, hinner, hcloses⟩ := hcloses
      have hfront : ∀ {tags : List Char} {vals' : List OscValue} {k : ℤ},
          Params dgram tags j vals' k →
            Params dgram ('[' :: inner ++ [']'] ++ tags) i ([.list vals] ++ vals') k := by
        intro tags vals' k h
        have harray := Params.array hinner h
        rwa [List.append_cons] at harray
      have hcons := Closes.cons hfront hcloses
      rwa [List.append_assoc, List.cons_append, List.singleton_append] at hcons
    split at hstep
    · rename_i hclose
      obtain rfl := hclose
      rcases outer with _ | ⟨enclosing, outer⟩
      · cases hstep
      · obtain rfl := Except.ok.inj hstep
        rw [Closes]
        exact ⟨[], tags, [], i, rfl, .nil i, (List.append_nil array).symm ▸ hcloses⟩
    · rename_i hopen hclose
      rw [map_eq_ok_iff] at hstep
      obtain ⟨r, hread, rfl⟩ := hstep
      rcases r with _ | ⟨val, j⟩
      · have hfront : ∀ {tags : List Char} {vals' : List OscValue} {k : ℤ},
            Params dgram tags i vals' k → Params dgram ([param] ++ tags) i ([] ++ vals') k :=
          fun h => .unhandled ⟨hopen, hclose⟩ hread h
        refine Closes.cons hfront ?_
        rwa [List.append_nil]
      · have hfront : ∀ {tags : List Char} {vals' : List OscValue} {k : ℤ},
            Params dgram tags j vals' k → Params dgram ([param] ++ tags) i ([val] ++ vals') k :=
          fun h => .value ⟨hopen, hclose⟩ hread h
        exact Closes.cons hfront hcloses

/-- **The stack reads the grammar.** -/
theorem parseParams_eq_ok_iff {tags : List Char} {i : ℤ} {params : List OscValue} :
    parseParams dgram tags i = .ok params ↔ ∃ k, Params dgram tags i params k := by
  rw [parseParams, bind_eq_ok_iff]
  constructor
  · rintro ⟨⟨stack, k⟩, hfold, hs⟩
    rcases stack with _ | ⟨array, _ | ⟨enclosing, outer⟩⟩
    · cases hs
    · obtain rfl := Except.ok.inj hs
      have hcloses := closes_of_foldlM hfold
      rw [Closes] at hcloses
      obtain ⟨vals, hvals, rfl⟩ := hcloses
      exact ⟨k, hvals⟩
    · cases hs
  · rintro ⟨k, h⟩
    exact ⟨_, foldlM_of_params h [] [], rfl⟩

/-- A message in a datagram: an address, and either nothing behind it or tags and values by the
grammar. -/
def Spells (dgram : Bytes) (address : String) (params : List OscValue) : Prop :=
  ∃ i, getString dgram 0 = .ok (address, i) ∧
    (sliceFrom dgram i = [] ∧ params = [] ∨
      sliceFrom dgram i ≠ [] ∧ ∃ tags j k,
        getString dgram i = .ok (String.ofList (',' :: tags), j) ∧ Params dgram tags j params k)

/-- What the constructor accepts is a message. -/
theorem spells_of_parse {m : OscMessage} (h : parse dgram = .ok m) :
    m.dgram = dgram ∧ Spells dgram m.address m.params := by
  rw [parse, mapError_eq_ok_iff, parseDatagram, bind_eq_ok_iff] at h
  obtain ⟨⟨address, i⟩, haddress, h⟩ := h
  simp only at h
  split at h
  · rename_i hend
    obtain rfl := Except.ok.inj h
    exact ⟨rfl, i, haddress, .inl ⟨hend, rfl⟩⟩
  · rename_i hend
    rw [bind_eq_ok_iff] at h
    obtain ⟨⟨typeTag, j⟩, htag, h⟩ := h
    simp only at h
    split at h
    · rename_i tags hcomma
      rw [map_eq_ok_iff] at h
      obtain ⟨params, hparams, rfl⟩ := h
      obtain ⟨k, hk⟩ := parseParams_eq_ok_iff.mp hparams
      refine ⟨rfl, i, haddress, .inr ⟨hend, tags, j, k, ?_, hk⟩⟩
      rw [← hcomma, String.ofList_toList]
      exact htag
    · cases h

/-- The constructor accepts messages. -/
theorem parse_of_spells {address : String} {params : List OscValue}
    (h : Spells dgram address params) : parse dgram = .ok ⟨dgram, address, params⟩ := by
  rw [parse, mapError_eq_ok_iff, parseDatagram, bind_eq_ok_iff]
  obtain ⟨i, haddress, ⟨hend, rfl⟩ | ⟨hend, tags, j, k, htag, hparams⟩⟩ := h
  · exact ⟨_, haddress, if_pos hend⟩
  · refine ⟨_, haddress, ?_⟩
    simp only
    rw [if_neg hend, htag, ok_bind, String.toList_ofList]
    simp only
    rw [parseParams_eq_ok_iff.mpr ⟨k, hparams⟩]
    rfl

/-- Whatever the tags, values are read without another exception. -/
theorem isReadError_readParam {param : Char} {i : ℤ} {e : OscExc}
    (h : readParam dgram param i = .error e) : IsReadError e := by
  rw [readParam] at h
  rcases of_ite h with h | h
  · exact isReadError_getFixed (map_eq_error_iff.mp h)
  rcases of_ite h with h | h
  · exact isReadError_getFixed (map_eq_error_iff.mp h)
  rcases of_ite h with h | h
  · exact isReadError_getFloat (map_eq_error_iff.mp h)
  rcases of_ite h with h | h
  · exact isReadError_getFixed (map_eq_error_iff.mp h)
  rcases of_ite h with h | h
  · exact isReadError_getString (map_eq_error_iff.mp h)
  rcases of_ite h with h | h
  · exact isReadError_getBlob (map_eq_error_iff.mp h)
  rcases of_ite h with h | h
  · exact isReadError_getFixed (map_eq_error_iff.mp h)
  rcases of_ite h with h | h
  · exact isReadError_getFixed (map_eq_error_iff.mp h)
  rcases of_ite h with h | h
  · exact isReadError_getFixed (map_eq_error_iff.mp h)
  rcases of_ite h with h | h
  · cases h
  rcases of_ite h with h | h
  · cases h
  rcases of_ite h with h | h
  · cases h
  cases h

theorem error_of_paramStep {s : Loop} {param : Char} {e : OscExc}
    (h : paramStep dgram s param = .error e) : IsReadError e ∨ e = .messageParse := by
  rw [paramStep] at h
  split at h
  · exact .inr (Except.error.inj h).symm
  split at h
  · cases h
  split at h
  · split at h
    · exact .inr (Except.error.inj h).symm
    · cases h
  · exact .inl (isReadError_readParam (map_eq_error_iff.mp h))

theorem error_of_foldlM {tags : List Char} {s : Loop} {e : OscExc}
    (h : tags.foldlM (paramStep dgram) s = .error e) : IsReadError e ∨ e = .messageParse := by
  induction tags generalizing s with
  | nil => cases h
  | cons param tags ih =>
    rw [foldlM_cons] at h
    rcases bind_eq_error_iff.mp h with h | ⟨t, -, h⟩
    · exact error_of_paramStep h
    · exact ih h

/-- What the constructor raises: its own exception, or the one for bytes that are no UTF-8. -/
theorem error_of_parse {e : OscExc} (h : parse dgram = .error e) :
    e = .messageParse ∨ e = .unicodeDecode := by
  have hraised : ∀ {e : OscExc}, IsReadError e ∨ e = .messageParse →
      raisedAs .messageParse e = .messageParse ∨ raisedAs .messageParse e = .unicodeDecode := by
    rintro e ((rfl | rfl) | rfl)
    · exact .inl rfl
    · exact .inr rfl
    · exact .inl rfl
  obtain ⟨e', hparse, rfl⟩ := mapError_eq_error_iff.mp h
  apply hraised
  rw [parseDatagram] at hparse
  rcases bind_eq_error_iff.mp hparse with h | ⟨⟨address, i⟩, -, h⟩
  · exact .inl (isReadError_getString h)
  simp only at h
  split at h
  · cases h
  rcases bind_eq_error_iff.mp h with h | ⟨⟨typeTag, j⟩, -, h⟩
  · exact .inl (isReadError_getString h)
  simp only at h
  split at h
  · have hparams := map_eq_error_iff.mp h
    rw [parseParams] at hparams
    rcases bind_eq_error_iff.mp hparams with h | ⟨s, -, h⟩
    · exact error_of_foldlM h
    · split at h
      · cases h
      · exact .inr (Except.error.inj h).symm
  · exact .inr (Except.error.inj h).symm

/-- **What is accepted**: the constructor succeeds on the messages of the grammar, with their
address and parameters. -/
theorem parse_eq_ok_iff {m : OscMessage} :
    parse dgram = .ok m ↔ m.dgram = dgram ∧ Spells dgram m.address m.params := by
  constructor
  · exact spells_of_parse
  · rintro ⟨rfl, h⟩
    exact parse_of_spells h

/-- A datagram begins with the address of its message. -/
theorem dgram_eq_of_parse {m : OscMessage} (h : parse dgram = .ok m) :
    0 ∉ Bytes.ofText m.address ∧ ∃ rest, dgram = Bytes.ofText m.address ++ 0 :: rest := by
  obtain ⟨-, i, haddress, -⟩ := spells_of_parse h
  exact front_of_getString haddress

/-- Which messages are recognised as such: those whose address begins with a slash. -/
theorem dgramIsMessage_iff {m : OscMessage} (h : parse dgram = .ok m) :
    dgramIsMessage dgram ↔ m.address.toList.head? = some '/' := by
  obtain ⟨-, rest, rfl⟩ := dgram_eq_of_parse h
  rw [dgramIsMessage, beq_iff_eq, Bytes.ofText]
  rcases m.address.toList with _ | ⟨c, address⟩
  · simp
  · have hc := Bytes.mem_utf8EncodeChar_iff (b := 47) (by decide) (c := c)
    have hne : String.utf8EncodeChar c ≠ [] := by
      intro hnil
      have hlength := congrArg List.length hnil
      rw [String.length_utf8EncodeChar] at hlength
      have hpos := c.utf8Size_pos
      rw [List.length_nil] at hlength
      omega
    rw [List.flatMap_cons, List.append_assoc, List.head?_append_of_ne_nil _ hne, List.head?_cons,
      Option.some_inj]
    constructor
    · intro hhead
      have hnat := hc.mp (List.mem_of_mem_head? hhead)
      rw [← Char.ofNat_toNat c, hnat]
      rfl
    · rintro rfl
      rfl

end OscMessage

end LooperControl
