import LooperControl.Osc.Message
import Mathlib.Data.Nat.Size

/-!
# `OscMessageBuilder`

Arguments are collected with their type tags, an array between brackets, and are then written one
after the other behind the address and the tags. The type of an argument is guessed unless it is
given.

* `Announces`: tags and bytes that stand for values wherever in a datagram they are.
* `buildMsg_eq_ok`: a message that is built is read back with its address and its arguments.
* `exists_buildMsg_iff`: which arguments a message can be built of.
-/

namespace LooperControl

open Slice OscTypes Fallible

/-- The type of an argument: a tag, or the types of the elements of an array. -/
inductive ArgType
  | none
  | tag (s : String)
  | list (types : List ArgType)

/-- `OscMessageBuilder`: the address, and the tags and values of the arguments. -/
structure OscMessageBuilder where
  address : Option String := none
  args : List (String × OscValue) := []

namespace OscMessageBuilder

/-- `_SUPPORTED_ARG_TYPES`. -/
def supportedArgTypes : List String := ["f", "d", "i", "h", "b", "s", "r", "m", "T", "F", "N"]

mutual

/-- `_valid_type`. -/
def validType : ArgType → Bool
  | .none => false
  | .tag s => supportedArgTypes.contains s
  | .list types => validTypes types

/-- `_valid_type` of every element. -/
def validTypes : List ArgType → Bool
  | [] => true
  | t :: types => validType t && validTypes types

end

mutual

/-- `_get_arg_type`. -/
def getArgType : OscValue → Except OscExc ArgType
  | .str _ => .ok (.tag "s")
  | .bytes _ => .ok (.tag "b")
  | .bool true => .ok (.tag "T")
  | .bool false => .ok (.tag "F")
  | .int n => .ok (.tag (if 31 < n.natAbs.size then "h" else "i"))
  | .float _ => .ok (.tag "f")
  | .tuple l => if l.length = 4 then .ok (.tag "m") else .error .valueError
  | .list l => (getArgTypes l).map .list
  | .none => .ok (.tag "N")
  | .time _ _ => .error .valueError

/-- `_get_arg_type` of every element. -/
def getArgTypes : List OscValue → Except OscExc (List ArgType)
  | [] => .ok []
  | v :: l => (getArgType v).bind fun t => (getArgTypes l).map fun types => t :: types

end

/-- An array's tags and values between its brackets. -/
def brackets (args : List (String × OscValue)) : List (String × OscValue) :=
  ("[", .none) :: args ++ [("]", .none)]

mutual

/-- What `add_arg` adds, with something else to do where no type is given. -/
def addTyped (guess : OscValue → Except OscExc (List (String × OscValue))) :
    ArgType → OscValue → Except OscExc (List (String × OscValue))
  | .none, v => guess v
  | .tag s, v => if s = "" then guess v else .ok [(s, v)]
  | .list [], v => guess v
  | .list (t :: types), v =>
    match v.elements? with
    | some l => (addEach guess (t :: types) l).map brackets
    | none => .error .typeError

/-- `add_arg` for the pairs of `zip(arg_value, arg_type)`. -/
def addEach (guess : OscValue → Except OscExc (List (String × OscValue))) :
    List ArgType → List OscValue → Except OscExc (List (String × OscValue))
  | t :: types, v :: l => (addTyped guess t v).bind fun args =>
      (addEach guess types l).map fun rest => args ++ rest
  | _, _ => .ok []

end

/-- What is added for the empty type, which only an empty array is guessed. -/
def addEmpty (_ : OscValue) : Except OscExc (List (String × OscValue)) := .ok (brackets [])

/-- What `add_arg` adds when the type has to be guessed. -/
def addGuessed (v : OscValue) : Except OscExc (List (String × OscValue)) :=
  (getArgType v).bind fun t => addTyped addEmpty t v

/-- A type that has to be guessed. -/
def ArgType.missing : ArgType → Bool
  | .none => true
  | .tag s => s = ""
  | .list types => types.isEmpty

/-- `add_arg`. What has been added before an exception is not kept. -/
def addArg (b : OscMessageBuilder) (v : OscValue) (argType : ArgType) :
    Except OscExc OscMessageBuilder :=
  if ¬ArgType.missing argType ∧ ¬validType argType then .error .valueError
  else (addTyped addGuessed argType v).map fun args => { b with args := b.args ++ args }

/-- The bytes of an argument. -/
def writeArg (argType : String) (value : OscValue) : Except OscExc Bytes :=
  if argType = "s" then writeString value
  else if argType = "i" then writeInt value
  else if argType = "h" then writeInt64 value
  else if argType = "f" then writeFloat value
  else if argType = "d" then writeDouble value
  else if argType = "b" then writeBlob value
  else if argType = "r" then writeRgba value
  else if argType = "m" then writeMidi value
  else if argType ∈ ["T", "F", "[", "]", "N"] then .ok []
  else .error .messageBuild

/-- The loop over the arguments. -/
def writeArgs (args : List (String × OscValue)) (dgram : Bytes) : Except OscExc Bytes :=
  args.foldlM (fun dgram arg => (writeArg arg.1 arg.2).map fun l => dgram ++ l) dgram

/-- An exception that leaves a `try` which turns `osc_types.BuildError` into another one. -/
def raisedAs (buildError : OscExc) : OscExc → OscExc
  | .typesBuild => buildError
  | e => e

/-- `build`. -/
def build (b : OscMessageBuilder) : Except OscExc OscMessage :=
  match b.address with
  | none => .error .messageBuild
  | some address =>
    if address = "" then .error .messageBuild
    else
      Except.mapError (raisedAs .messageBuild) <|
        (writeString (.str address)).bind fun dgram =>
          if b.args = [] then
            (writeString (.str ",")).bind fun l => OscMessage.parse (dgram ++ l)
          else
            (writeString (.str ("," ++ String.join (b.args.map Prod.fst)))).bind fun l =>
              (writeArgs b.args (dgram ++ l)).bind OscMessage.parse

/-- The arguments that `build_msg` makes of its second one. -/
def valuesOf : OscValue → List OscValue
  | .str s => if s = "" then [] else [.str s]
  | .tuple l => l
  | .list l => l
  | v => [v]

/-- `build_msg`. -/
def buildMsg (address : String) (value : OscValue) : Except OscExc OscMessage :=
  ((valuesOf value).foldlM (fun b v => addArg b v .none)
    ({ address := some address } : OscMessageBuilder)).bind build

/-! ### Arguments are read back -/

/-- Tags and bytes that stand for values wherever in a datagram the bytes are. -/
def Announces (tags : List Char) (bytes : Bytes) (vals : List OscValue) : Prop :=
  ∀ l r : Bytes,
    OscMessage.Params (l ++ (bytes ++ r)) tags l.length vals (l.length + bytes.length)

theorem announces_nil : Announces [] [] [] := by
  intro l r
  rw [List.length_nil, Nat.cast_zero, add_zero]
  exact .nil _

/-- One after the other. -/
theorem Announces.append {tags tags' : List Char} {bytes bytes' : Bytes}
    {vals vals' : List OscValue} (h : Announces tags bytes vals)
    (h' : Announces tags' bytes' vals') :
    Announces (tags ++ tags') (bytes ++ bytes') (vals ++ vals') := by
  intro l r
  have hfront := h l (bytes' ++ r)
  have hrest := h' (l ++ bytes) r
  rw [List.append_assoc, List.length_append, Nat.cast_add] at hrest
  rw [List.append_assoc, List.length_append, Nat.cast_add, ← add_assoc]
  exact hfront.append hrest

/-- An array. -/
theorem Announces.array {tags : List Char} {bytes : Bytes} {vals : List OscValue}
    (h : Announces tags bytes vals) :
    Announces ('[' :: tags ++ [']']) bytes [.list vals] := fun l r => .array (h l r) (.nil _)

/-- One value. -/
theorem announces_value (param : Char) {bytes : Bytes} {val : OscValue}
    (hbracket : param ≠ '[' ∧ param ≠ ']')
    (h : ∀ l r : Bytes, OscMessage.readParam (l ++ (bytes ++ r)) param l.length =
      .ok (some (val, l.length + bytes.length))) : Announces [param] bytes [val] :=
  fun l r => .value hbracket (h l r) (.nil _)

/-- What an argument of a type is received as. -/
def sent (argType : String) (v : OscValue) : OscValue :=
  if argType = "i" ∨ argType = "h" ∨ argType = "r" then .int (v.integer?.getD 0)
  else if argType = "f" then .float (Binary.single.rounded roundHalfEven (v.number?.getD .nan))
  else if argType = "d" then .float (Binary.double.rounded roundHalfEven (v.number?.getD .nan))
  else if argType = "m" then
    .tuple ((((v.elements?.getD []).mapM OscValue.integer?).getD []).map fun n => .int (n % 256))
  else if argType = "T" then .bool true
  else if argType = "F" then .bool false
  else if argType = "N" then .none
  else v

/-- Text without a zero character. -/
def NulFree (v : OscValue) : Prop := ∀ s, v = .str s → Char.ofNat 0 ∉ s.toList

/-- **An argument is read back** as a value of its type. -/
theorem announces_writeArg {argType : String} (htype : argType ∈ supportedArgTypes) {v : OscValue}
    (hv : NulFree v) {bytes : Bytes} (h : writeArg argType v = .ok bytes) :
    Announces argType.toList bytes [sent argType v] := by
  simp only [supportedArgTypes, List.mem_cons, List.not_mem_nil, or_false] at htype
  rcases htype with rfl | rfl | rfl | rfl | rfl | rfl | rfl | rfl | rfl | rfl | rfl
  · obtain ⟨x, hx⟩ := number_of_packNumber h
    have hread := reads_writeFloat hx h
    refine announces_value 'f' (by decide) fun l r => ?_
    simp [OscMessage.readParam, hread l r, sent, hx]
  · obtain ⟨x, hx⟩ := number_of_packNumber h
    have hread := reads_writeDouble hx h
    refine announces_value 'd' (by decide) fun l r => ?_
    simp [OscMessage.readParam, hread l r, sent, hx]
  · obtain ⟨n, hn, -⟩ := integer_of_packInteger h
    have hread := reads_writeInt hn h
    refine announces_value 'i' (by decide) fun l r => ?_
    simp [OscMessage.readParam, hread l r, sent, hn]
  · obtain ⟨n, hn, -⟩ := integer_of_packInteger h
    have hread := reads_writeInt64 hn h
    refine announces_value 'h' (by decide) fun l r => ?_
    simp [OscMessage.readParam, hread l r, sent, hn]
  · obtain ⟨l, rfl⟩ := bytes_of_writeBlob h
    have hread := reads_writeBlob h
    refine announces_value 'b' (by decide) fun l r => ?_
    simp [OscMessage.readParam, hread l r, sent]
  · obtain ⟨s, rfl⟩ := text_of_writeString h
    have hread := reads_writeString (hv s rfl) h
    refine announces_value 's' (by decide) fun l r => ?_
    simp [OscMessage.readParam, hread l r, sent]
  · obtain ⟨n, hn, hnonneg, -⟩ := integer_of_packInteger h
    have hread := reads_writeRgba hn h
    refine announces_value 'r' (by decide) fun l r => ?_
    simp [OscMessage.readParam, hread l r, sent, hn, Int.toNat_of_nonneg hnonneg]
  · obtain ⟨values, hvalues, hread⟩ := reads_writeMidi h
    refine announces_value 'm' (by decide) fun l r => ?_
    simp [OscMessage.readParam, hread l r, sent, hvalues, Function.comp_def, Int.emod_nonneg]
  all_goals
    obtain rfl := Except.ok.inj h
  · exact announces_value 'T' (by decide) fun l r => by simp [OscMessage.readParam, sent]
  · exact announces_value 'F' (by decide) fun l r => by simp [OscMessage.readParam, sent]
  · exact announces_value 'N' (by decide) fun l r => by simp [OscMessage.readParam, sent]

/-- Tags and values as `add_arg` collects them, and what they are received as. -/
inductive Entries : List (String × OscValue) → List OscValue → Prop
  | nil : Entries [] []
  | value {t : String} {v : OscValue} {args : List (String × OscValue)} {vals : List OscValue}
      (ht : t ∈ supportedArgTypes) (h : Entries args vals) :
      Entries ((t, v) :: args) (sent t v :: vals)
  | array {inner args : List (String × OscValue)} {array vals : List OscValue}
      (hinner : Entries inner array) (h : Entries args vals) :
      Entries (brackets inner ++ args) (.list array :: vals)

theorem Entries.append {args args' : List (String × OscValue)} {vals vals' : List OscValue}
    (h : Entries args vals) (h' : Entries args' vals') :
    Entries (args ++ args') (vals ++ vals') := by
  induction h with
  | nil => exact h'
  | value ht _ ih => exact .value ht ih
  | array hinner _ _ ih =>
    rw [List.append_assoc]
    exact .array hinner ih

/-- The tags of arguments. -/
def tagsOf (args : List (String × OscValue)) : List Char := args.flatMap fun arg => arg.1.toList

theorem writeArgs_cons (arg : String × OscValue) (args : List (String × OscValue)) (dgram : Bytes) :
    writeArgs (arg :: args) dgram =
      (writeArg arg.1 arg.2).bind fun l => writeArgs args (dgram ++ l) := by
  rw [writeArgs, foldlM_cons]
  cases writeArg arg.1 arg.2 <;> rfl

theorem writeArgs_append (args args' : List (String × OscValue)) (dgram : Bytes) :
    writeArgs (args ++ args') dgram = (writeArgs args dgram).bind (writeArgs args') := by
  induction args generalizing dgram with
  | nil => rfl
  | cons arg args ih =>
    rw [List.cons_append, writeArgs_cons, writeArgs_cons]
    cases writeArg arg.1 arg.2 with
    | error e => rfl
    | ok l => exact ih _

/-- The arguments can be written when each of them can. -/
theorem exists_writeArgs_iff {args : List (String × OscValue)} {dgram : Bytes} :
    (∃ l, writeArgs args dgram = .ok l) ↔ ∀ arg ∈ args, ∃ l, writeArg arg.1 arg.2 = .ok l := by
  induction args generalizing dgram with
  | nil => exact iff_of_true ⟨dgram, rfl⟩ (List.forall_mem_nil _)
  | cons arg args ih =>
    rw [writeArgs_cons, List.forall_mem_cons]
    cases h : writeArg arg.1 arg.2 with
    | error e => simp
    | ok l => simp [ih]

/-- **Arguments that are written are announced** by their tags. -/
theorem announces_writeArgs {args : List (String × OscValue)} {vals : List OscValue}
    (h : Entries args vals) (hplain : ∀ arg ∈ args, NulFree arg.2) {dgram dgram' : Bytes}
    (hwrite : writeArgs args dgram = .ok dgram') :
    ∃ bytes, dgram' = dgram ++ bytes ∧ Announces (tagsOf args) bytes vals := by
  induction h generalizing dgram dgram' with
  | nil =>
    obtain rfl := Except.ok.inj hwrite
    exact ⟨[], (List.append_nil _).symm, announces_nil⟩
  | @value t v args vals ht _ ih =>
    rw [List.forall_mem_cons] at hplain
    rw [writeArgs_cons, bind_eq_ok_iff] at hwrite
    obtain ⟨l, hl, hwrite⟩ := hwrite
    obtain ⟨bytes, rfl, hrest⟩ := ih hplain.2 hwrite
    exact ⟨l ++ bytes, List.append_assoc _ _ _, (announces_writeArg ht hplain.1 hl).append hrest⟩
  | @array inner args array vals _ _ ihinner ih =>
    rw [List.forall_mem_append, brackets, List.forall_mem_append, List.forall_mem_cons] at hplain
    obtain ⟨⟨⟨-, hinner⟩, -⟩, hargs⟩ := hplain
    rw [brackets, List.append_assoc, List.cons_append, writeArgs_cons, bind_eq_ok_iff] at hwrite
    obtain ⟨l, hl, hwrite⟩ := hwrite
    obtain rfl := Except.ok.inj hl
    rw [writeArgs_append, bind_eq_ok_iff] at hwrite
    obtain ⟨d, hd, hwrite⟩ := hwrite
    rw [List.singleton_append, writeArgs_cons, bind_eq_ok_iff] at hwrite
    obtain ⟨l, hl, hwrite⟩ := hwrite
    obtain rfl := Except.ok.inj hl
    obtain ⟨bytes, rfl, harray⟩ := ihinner hinner hd
    obtain ⟨bytes', rfl, hrest⟩ := ih hargs hwrite
    refine ⟨bytes ++ bytes', ?_, ?_⟩
    · simp only [List.append_nil, List.append_assoc]
    · have happend := harray.array.append hrest
      rw [tagsOf, brackets, List.flatMap_append, List.flatMap_append]
      simpa [tagsOf] using happend

/-! ### Messages -/

/-- A datagram of an address, tags and what they announce. -/
theorem parse_of_announces {address : String} {tags : List Char} {vals : List OscValue}
    (haddress : Char.ofNat 0 ∉ address.toList) (htags : Char.ofNat 0 ∉ tags) {a t bytes : Bytes}
    (ha : writeString (.str address) = .ok a)
    (ht : writeString (.str (String.ofList (',' :: tags))) = .ok t)
    (h : Announces tags bytes vals) :
    OscMessage.parse (a ++ t ++ bytes) = .ok ⟨a ++ t ++ bytes, address, vals⟩ := by
  have hread := reads_writeString haddress ha [] (t ++ bytes)
  have hcomma : Char.ofNat 0 ∉ (String.ofList (',' :: tags)).toList := by
    rw [String.toList_ofList, List.mem_cons, not_or]
    exact ⟨by decide, htags⟩
  have hread' := reads_writeString hcomma ht a bytes
  have hparams := h (a ++ t) []
  rw [List.append_nil, List.length_append, Nat.cast_add] at hparams
  simp only [List.nil_append, List.length_nil, Nat.cast_zero, zero_add] at hread
  have hne : sliceFrom (a ++ (t ++ bytes)) a.length ≠ [] := by
    rw [sliceFrom_append]
    intro hnil
    have hlength := congrArg List.length hnil
    obtain rfl := Except.ok.inj ht
    simp only [List.length_append, List.length_replicate, List.length_nil] at hlength
    omega
  refine OscMessage.parse_of_spells ⟨a.length, ?_, .inr ⟨?_, tags, _, _, ?_, hparams⟩⟩
  · rw [List.append_assoc]
    exact hread
  · rw [List.append_assoc]
    exact hne
  · rw [List.append_assoc]
    exact hread'

/-- The tags of arguments are no zero characters. -/
theorem Entries.nulFree_tags {args : List (String × OscValue)} {vals : List OscValue}
    (h : Entries args vals) : Char.ofNat 0 ∉ tagsOf args := by
  have hsupported : ∀ t ∈ supportedArgTypes, Char.ofNat 0 ∉ t.toList := by decide
  induction h with
  | nil => exact List.not_mem_nil
  | value ht _ ih =>
    rw [tagsOf, List.flatMap_cons, List.mem_append, not_or]
    exact ⟨hsupported _ ht, ih⟩
  | array _ _ ihinner ih =>
    simp only [tagsOf, brackets, List.flatMap_append, List.flatMap_cons, List.flatMap_nil,
      List.mem_append, not_or]
    exact ⟨⟨⟨by decide, ihinner⟩, by decide, by decide⟩, ih⟩

theorem tagString_eq (args : List (String × OscValue)) :
    "," ++ String.join (args.map Prod.fst) = String.ofList (',' :: tagsOf args) := by
  rw [← String.ofList_toList (s := "," ++ String.join (args.map Prod.fst)), String.toList_append,
    String.toList_join, List.flatMap_map]
  rfl

/-- What `build` makes of arguments whose text has no zero characters: the message that they stand
for, if they all can be written. -/
theorem build_eq_ok_iff {b : OscMessageBuilder} {address : String} {vals : List OscValue}
    (hb : b.address = some address) (hne : address ≠ "")
    (haddress : Char.ofNat 0 ∉ address.toList) (h : Entries b.args vals)
    (hplain : ∀ arg ∈ b.args, NulFree arg.2) {m : OscMessage} :
    b.build = .ok m ↔ m.address = address ∧ m.params = vals ∧
      ∃ a t, writeString (.str address) = .ok a ∧
        writeString (.str (String.ofList (',' :: tagsOf b.args))) = .ok t ∧
          writeArgs b.args (a ++ t) = .ok m.dgram := by
  have hparse : ∀ {a t d : Bytes}, writeString (.str address) = .ok a →
      writeString (.str (String.ofList (',' :: tagsOf b.args))) = .ok t →
        writeArgs b.args (a ++ t) = .ok d → OscMessage.parse d = .ok ⟨d, address, vals⟩ := by
    intro a t d ha ht hd
    obtain ⟨bytes, rfl, hannounce⟩ := announces_writeArgs h hplain hd
    exact parse_of_announces haddress h.nulFree_tags ha ht hannounce
  have hbuild : b.build = .ok m ↔ ∃ a t d, writeString (.str address) = .ok a ∧
      writeString (.str (String.ofList (',' :: tagsOf b.args))) = .ok t ∧
        writeArgs b.args (a ++ t) = .ok d ∧ OscMessage.parse d = .ok m := by
    rw [build, hb]
    simp only
    rw [if_neg hne, mapError_eq_ok_iff, bind_eq_ok_iff]
    refine exists_congr fun a => ?_
    split
    · -- Without arguments the tags are the comma by itself.
      rename_i hargs
      rw [hargs, bind_eq_ok_iff]
      constructor
      · rintro ⟨ha, t, ht, hm⟩
        exact ⟨t, _, ha, ht, rfl, hm⟩
      · rintro ⟨t, d, ha, ht, hd, hm⟩
        obtain rfl := Except.ok.inj hd
        exact ⟨ha, t, ht, hm⟩
    · rw [tagString_eq, bind_eq_ok_iff]
      simp only [bind_eq_ok_iff]
      constructor
      · rintro ⟨ha, t, ht, d, hd, hm⟩
        exact ⟨t, d, ha, ht, hd, hm⟩
      · rintro ⟨t, d, ha, ht, hd, hm⟩
        exact ⟨ha, t, ht, d, hd, hm⟩
  rw [hbuild]
  constructor
  · rintro ⟨a, t, d, ha, ht, hd, hm⟩
    obtain rfl := Except.ok.inj ((hparse ha ht hd).symm.trans hm)
    exact ⟨rfl, rfl, a, t, ha, ht, hd⟩
  · rcases m with ⟨d, _, _⟩
    rintro ⟨rfl, rfl, a, t, ha, ht, hd⟩
    exact ⟨a, t, d, ha, ht, hd, hparse ha ht hd⟩

/-! ### Guessed types -/

mutual

/-- What a value is received as when its type has been guessed. -/
def received : OscValue → OscValue
  | .float x => .float (Binary.single.rounded roundHalfEven x)
  | .tuple l => sent "m" (.tuple l)
  | .list l => .list (receivedAll l)
  | v => v

/-- What the elements of an array are received as. -/
def receivedAll : List OscValue → List OscValue
  | [] => []
  | v :: l => received v :: receivedAll l

end

mutual

/-- A value that can be sent with a guessed type. -/
def Sendable : OscValue → Prop
  | .int n => -2 ^ 63 ≤ n ∧ n < 2 ^ 63
  | .float x => (Binary.single.encode roundHalfEven x).isSome
  | .bytes l => l ≠ [] ∧ l.length < 2 ^ 31
  | .tuple l => l.length = 4 ∧ ∀ v ∈ l, v.integer?.isSome
  | .list l => SendableAll l
  | .time _ _ => False
  | _ => True

/-- An array whose elements can be sent. -/
def SendableAll : List OscValue → Prop
  | [] => True
  | v :: l => Sendable v ∧ SendableAll l

end

mutual

/-- A value all of whose text has no zero characters. -/
def Plain : OscValue → Prop
  | .str s => Char.ofNat 0 ∉ s.toList
  | .list l => PlainAll l
  | _ => True

/-- An array of such values. -/
def PlainAll : List OscValue → Prop
  | [] => True
  | v :: l => Plain v ∧ PlainAll l

end

/-- What holds of the arguments that stand for values. -/
structure Guessed (args : List (String × OscValue)) (vals : List OscValue) (plain sendable : Prop) :
    Prop where
  entries : Entries args vals
  nulFree : plain → ∀ arg ∈ args, NulFree arg.2
  written : (∀ arg ∈ args, ∃ l, writeArg arg.1 arg.2 = .ok l) ↔ sendable

private theorem exists_mapM_iff {α β : Type} {f : α → Option β} {l : List α} :
    (∃ m, l.mapM f = some m) ↔ ∀ a ∈ l, (f a).isSome := by
  induction l with
  | nil => exact iff_of_true ⟨[], rfl⟩ (List.forall_mem_nil _)
  | cons a l ih =>
    rw [List.forall_mem_cons, ← ih, List.mapM_cons]
    cases f a with
    | none => simp
    | some b => cases l.mapM f <;> simp

theorem exists_writeMidi_iff {l : List OscValue} (hl : l.length = 4) :
    (∃ bytes, writeMidi (.tuple l) = .ok bytes) ↔ ∀ v ∈ l, v.integer?.isSome := by
  rw [← exists_mapM_iff]
  simp only [writeMidi, OscValue.length?, OscValue.elements?, Option.getD_some, if_pos hl]
  cases l.mapM OscValue.integer? with
  | none => simp
  | some values => simp

/-- A value that is no array has a tag of its own. -/
theorem guessed_leaf {v : OscValue} {t : String} (h : getArgType v = .ok (.tag t)) :
    Guessed [(t, v)] [received v] (Plain v) (Sendable v) := by
  have hone : ∀ {t : String}, t ∈ supportedArgTypes → sent t v = received v →
      (Plain v → NulFree v) → ((∃ l, writeArg t v = .ok l) ↔ Sendable v) →
        Guessed [(t, v)] [received v] (Plain v) (Sendable v) := by
    intro t ht hsent hplain hwritten
    refine ⟨?_, ?_, ?_⟩
    · rw [← hsent]
      exact .value ht .nil
    · rw [List.forall_mem_singleton]
      exact hplain
    · rw [List.forall_mem_singleton]
      exact hwritten
  have hother : (∀ s, v ≠ .str s) → NulFree v := fun hv s hs => absurd hs (hv s)
  cases v with
  | none =>
    cases h
    exact hone (by decide) rfl (fun _ => hother (by simp)) (iff_of_true ⟨[], rfl⟩ trivial)
  | bool b =>
    cases b
    · cases h
      exact hone (by decide) rfl (fun _ => hother (by simp)) (iff_of_true ⟨[], rfl⟩ trivial)
    · cases h
      exact hone (by decide) rfl (fun _ => hother (by simp)) (iff_of_true ⟨[], rfl⟩ trivial)
  | int n =>
    rw [getArgType] at h
    split at h
    · cases h
      refine hone (by decide) (by simp [sent, received, OscValue.integer?])
        (fun _ => hother (by simp)) ?_
      rw [Sendable]
      exact exists_packInteger_iff
    · rename_i hsize
      cases h
      refine hone (by decide) (by simp [sent, received, OscValue.integer?])
        (fun _ => hother (by simp)) ?_
      have hbits : n.natAbs < 2 ^ 31 := Nat.size_le.mp (Nat.le_of_not_lt hsize)
      rw [Sendable]
      refine exists_packInteger_iff.trans ?_
      omega
  | float x =>
    cases h
    refine hone (by decide) (by simp [sent, received, OscValue.number?])
      (fun _ => hother (by simp)) ?_
    rw [Sendable]
    change (∃ l, packNumber .single (.float x) = .ok l) ↔ _
    simp only [packNumber, OscValue.number?]
    cases Binary.single.encode roundHalfEven x <;> simp
  | str s =>
    cases h
    refine hone (by decide) (by simp [sent, received]) ?_ (iff_of_true ⟨_, rfl⟩ trivial)
    intro hs s' heq
    cases heq
    exact hs
  | bytes l =>
    cases h
    refine hone (by decide) (by simp [sent, received]) (fun _ => hother (by simp)) ?_
    rw [Sendable]
    constructor
    · rintro ⟨d, hd⟩
      obtain ⟨hne, hlength, -⟩ := writeBlob_eq_ok_iff.mp hd
      exact ⟨hne, hlength⟩
    · rintro ⟨hne, hlength⟩
      exact ⟨_, writeBlob_eq_ok_iff.mpr ⟨hne, hlength, rfl⟩⟩
  | tuple l =>
    rw [getArgType] at h
    split at h
    · rename_i hl
      cases h
      refine hone (by decide) (by rw [received]) (fun _ => hother (by simp)) ?_
      rw [Sendable, and_iff_right hl]
      exact exists_writeMidi_iff hl
    · cases h
  | list l =>
    rw [getArgType, map_eq_ok_iff] at h
    obtain ⟨types, -, heq⟩ := h
    cases heq
  | time seconds fraction => cases h

theorem Guessed.brackets {args : List (String × OscValue)} {vals : List OscValue}
    {plain sendable : Prop} (h : Guessed args vals plain sendable) :
    Guessed (brackets args) [.list vals] plain sendable := by
  have hnone : NulFree .none := by
    intro s hs
    cases hs
  have hopen : ∃ l, writeArg "[" .none = .ok l := ⟨[], rfl⟩
  have hclose : ∃ l, writeArg "]" .none = .ok l := ⟨[], rfl⟩
  refine ⟨?_, fun hplain => ?_, ?_⟩
  · have harray := Entries.array h.entries .nil
    rwa [List.append_nil] at harray
  · rw [OscMessageBuilder.brackets, List.forall_mem_append, List.forall_mem_cons,
      List.forall_mem_singleton]
    exact ⟨⟨hnone, h.nulFree hplain⟩, hnone⟩
  · rw [OscMessageBuilder.brackets, List.forall_mem_append, List.forall_mem_cons,
      List.forall_mem_singleton, h.written]
    tauto

theorem Guessed.append {args args' : List (String × OscValue)} {vals vals' : List OscValue}
    {plain plain' sendable sendable' : Prop} (h : Guessed args vals plain sendable)
    (h' : Guessed args' vals' plain' sendable') :
    Guessed (args ++ args') (vals ++ vals') (plain ∧ plain') (sendable ∧ sendable') := by
  refine ⟨h.entries.append h'.entries, fun hplain => ?_, ?_⟩
  · rw [List.forall_mem_append]
    exact ⟨h.nulFree hplain.1, h'.nulFree hplain.2⟩
  · rw [List.forall_mem_append, h.written, h'.written]

/-- Only an array is guessed an array of types. -/
theorem getArgType_eq_tag {v : OscValue} (hv : ∀ l, v ≠ .list l) {t : ArgType}
    (h : getArgType v = .ok t) : ∃ s, t = .tag s ∧ s ≠ "" := by
  cases v with
  | none => cases h; exact ⟨_, rfl, by decide⟩
  | bool b => cases b <;> cases h <;> exact ⟨_, rfl, by decide⟩
  | int n =>
    cases h
    refine ⟨_, rfl, ?_⟩
    split <;> decide
  | float x => cases h; exact ⟨_, rfl, by decide⟩
  | str s => cases h; exact ⟨_, rfl, by decide⟩
  | bytes l => cases h; exact ⟨_, rfl, by decide⟩
  | tuple l =>
    rw [getArgType] at h
    split at h
    · cases h
      exact ⟨_, rfl, by decide⟩
    · cases h
  | list l => exact absurd rfl (hv l)
  | time seconds fraction => cases h

/-- Adding a value that is no array. -/
theorem guessed_addTyped_leaf {v : OscValue} (hv : ∀ l, v ≠ .list l) {t : ArgType}
    (h : getArgType v = .ok t) : ∃ args, addTyped addEmpty t v = .ok args ∧
      Guessed args [received v] (Plain v) (Sendable v) := by
  obtain ⟨s, rfl, hs⟩ := getArgType_eq_tag hv h
  exact ⟨_, if_neg hs, guessed_leaf h⟩

mutual

/-- Adding a value of the type that is guessed for it. -/
theorem guessed_addTyped : ∀ (v : OscValue) {t : ArgType}, getArgType v = .ok t →
    ∃ args, addTyped addEmpty t v = .ok args ∧
      Guessed args [received v] (Plain v) (Sendable v)
  | .list l, t, h => by
    rw [getArgType, map_eq_ok_iff] at h
    obtain ⟨types, htypes, rfl⟩ := h
    obtain ⟨args, hadd, hargs⟩ := guessed_addEach l htypes
    refine ⟨brackets args, ?_, ?_⟩
    · rcases types with _ | ⟨t, types⟩
      · obtain rfl := Except.ok.inj hadd
        rfl
      · rw [addTyped, OscValue.elements?]
        simp only
        rw [hadd, map_ok]
    · rw [received, Plain, Sendable]
      exact hargs.brackets
  | .none, _, h => guessed_addTyped_leaf (by simp) h
  | .bool _, _, h => guessed_addTyped_leaf (by simp) h
  | .int _, _, h => guessed_addTyped_leaf (by simp) h
  | .float _, _, h => guessed_addTyped_leaf (by simp) h
  | .str _, _, h => guessed_addTyped_leaf (by simp) h
  | .bytes _, _, h => guessed_addTyped_leaf (by simp) h
  | .tuple _, _, h => guessed_addTyped_leaf (by simp) h
  | .time _ _, _, h => guessed_addTyped_leaf (by simp) h

/-- Adding the elements of an array. -/
theorem guessed_addEach : ∀ (l : List OscValue) {types : List ArgType},
    getArgTypes l = .ok types → ∃ args, addEach addEmpty types l = .ok args ∧
      Guessed args (receivedAll l) (PlainAll l) (SendableAll l)
  | [], _, h => by
    obtain rfl := Except.ok.inj h
    refine ⟨[], rfl, .nil, fun _ => List.forall_mem_nil _, ?_⟩
    rw [SendableAll]
    exact iff_of_true (List.forall_mem_nil _) trivial
  | v :: l, _, h => by
    rw [getArgTypes, bind_eq_ok_iff] at h
    obtain ⟨t, ht, h⟩ := h
    obtain ⟨types, htypes, rfl⟩ := map_eq_ok_iff.mp h
    obtain ⟨args, hadd, hargs⟩ := guessed_addTyped v ht
    obtain ⟨rest, haddAll, hrest⟩ := guessed_addEach l htypes
    refine ⟨args ++ rest, ?_, ?_⟩
    · rw [addEach, hadd, ok_bind, haddAll, map_ok]
    · rw [receivedAll, PlainAll, SendableAll]
      exact hargs.append hrest

end

mutual

/-- A type is guessed for every value that can be sent. -/
theorem exists_getArgType : ∀ {v : OscValue}, Sendable v → ∃ t, getArgType v = .ok t
  | .list l, h => by
    rw [Sendable] at h
    obtain ⟨types, htypes⟩ := exists_getArgTypes h
    exact ⟨.list types, by rw [getArgType, htypes, map_ok]⟩
  | .none, _ => ⟨_, rfl⟩
  | .bool true, _ => ⟨_, rfl⟩
  | .bool false, _ => ⟨_, rfl⟩
  | .int _, _ => ⟨_, rfl⟩
  | .float _, _ => ⟨_, rfl⟩
  | .str _, _ => ⟨_, rfl⟩
  | .bytes _, _ => ⟨_, rfl⟩
  | .tuple l, h => by
    rw [Sendable] at h
    exact ⟨_, by rw [getArgType, if_pos h.1]⟩
  | .time _ _, h => by
    rw [Sendable] at h
    exact h.elim

/-- Types are guessed for the elements of every array that can be sent. -/
theorem exists_getArgTypes : ∀ {l : List OscValue}, SendableAll l →
    ∃ types, getArgTypes l = .ok types
  | [], _ => ⟨[], rfl⟩
  | v :: l, h => by
    rw [SendableAll] at h
    obtain ⟨t, ht⟩ := exists_getArgType h.1
    obtain ⟨types, htypes⟩ := exists_getArgTypes h.2
    exact ⟨t :: types, by rw [getArgTypes, ht, ok_bind, htypes, map_ok]⟩

end

/-- `add_arg` with a guessed type. -/
theorem addArg_none (b : OscMessageBuilder) (v : OscValue) :
    addArg b v .none = (addGuessed v).map fun args => { b with args := b.args ++ args } := by
  rw [addArg, addTyped]
  exact if_neg fun h => h.1 rfl

/-- What is collected for a list of values. -/
theorem guessed_foldlM {values : List OscValue} {b b' : OscMessageBuilder}
    (h : values.foldlM (fun b v => addArg b v .none) b = .ok b') :
    b'.address = b.address ∧ ∃ args, b'.args = b.args ++ args ∧
      Guessed args (receivedAll values) (PlainAll values) (SendableAll values) := by
  induction values generalizing b with
  | nil =>
    obtain rfl := Except.ok.inj h
    refine ⟨rfl, [], (List.append_nil _).symm, .nil, fun _ => List.forall_mem_nil _, ?_⟩
    rw [SendableAll]
    exact iff_of_true (List.forall_mem_nil _) trivial
  | cons v values ih =>
    rw [foldlM_cons, addArg_none, bind_eq_ok_iff] at h
    obtain ⟨_, hadd, hrest⟩ := h
    obtain ⟨args, hargs, rfl⟩ := map_eq_ok_iff.mp hadd
    rw [addGuessed, bind_eq_ok_iff] at hargs
    obtain ⟨t, ht, hargs⟩ := hargs
    obtain ⟨args', hargs', hguessed⟩ := guessed_addTyped v ht
    obtain rfl := Except.ok.inj (hargs'.symm.trans hargs)
    obtain ⟨haddress, rest, hb', hguessedRest⟩ := ih hrest
    refine ⟨haddress, args' ++ rest, ?_, ?_⟩
    · rw [hb', List.append_assoc]
    · rw [receivedAll, PlainAll, SendableAll]
      exact hguessed.append hguessedRest

/-- Values that can be sent can be collected. -/
theorem exists_foldlM {values : List OscValue} (h : SendableAll values) (b : OscMessageBuilder) :
    ∃ b', values.foldlM (fun b v => addArg b v .none) b = .ok b' := by
  induction values generalizing b with
  | nil => exact ⟨b, rfl⟩
  | cons v values ih =>
    rw [SendableAll] at h
    obtain ⟨t, ht⟩ := exists_getArgType h.1
    obtain ⟨args, hargs, -⟩ := guessed_addTyped v ht
    rw [foldlM_cons, addArg_none, addGuessed, ht, ok_bind, hargs, map_ok, ok_bind]
    exact ih h.2 _

variable {address : String} {value : OscValue}

/-- A builder that collects values, and when it builds. -/
theorem builds_iff {b : OscMessageBuilder} {vals : List OscValue} {plain sendable : Prop}
    (hb : b.address = some address) (haddress : Char.ofNat 0 ∉ address.toList)
    (h : Guessed b.args vals plain sendable) (hplain : plain) :
    (∃ m, b.build = .ok m) ↔ address ≠ "" ∧ sendable := by
  by_cases hne : address = ""
  · refine iff_of_false ?_ fun h => h.1 hne
    rintro ⟨m, hm⟩
    rw [build, hb, hne] at hm
    cases hm
  · have hwritten := h.written
    rw [and_iff_right hne, ← hwritten]
    simp only [build_eq_ok_iff hb hne haddress h.entries (h.nulFree hplain)]
    constructor
    · rintro ⟨m, -, -, a, t, -, -, hwrite⟩
      exact exists_writeArgs_iff.mp ⟨_, hwrite⟩
    · intro hargs
      obtain ⟨d, hd⟩ := exists_writeArgs_iff.mpr hargs
      exact ⟨⟨d, address, vals⟩, rfl, rfl, _, _, rfl, rfl, hd⟩

/-- What a builder builds is read back. -/
theorem parse_of_build {b : OscMessageBuilder} {vals : List OscValue} {plain sendable : Prop}
    (hb : b.address = some address) (haddress : Char.ofNat 0 ∉ address.toList)
    (h : Guessed b.args vals plain sendable) (hplain : plain) {m : OscMessage}
    (hbuild : b.build = .ok m) :
    OscMessage.parse m.dgram = .ok m ∧ m.address = address ∧ m.params = vals := by
  have hne := ((builds_iff hb haddress h hplain).mp ⟨m, hbuild⟩).1
  obtain ⟨hm, hparams, a, t, ha, ht, hwrite⟩ :=
    (build_eq_ok_iff hb hne haddress h.entries (h.nulFree hplain)).mp hbuild
  obtain ⟨bytes, hd, hannounce⟩ := announces_writeArgs h.entries (h.nulFree hplain) hwrite
  have hread := parse_of_announces haddress h.entries.nulFree_tags ha ht hannounce
  rw [← hd, ← hm, ← hparams] at hread
  exact ⟨hread, hm, hparams⟩

/-- **A message that is built is read back**: its datagram is read as the message itself, with the
address and the arguments that it was built of. -/
theorem buildMsg_eq_ok (haddress : Char.ofNat 0 ∉ address.toList)
    (hplain : PlainAll (valuesOf value)) {m : OscMessage} (h : buildMsg address value = .ok m) :
    OscMessage.parse m.dgram = .ok m ∧ m.address = address ∧
      m.params = receivedAll (valuesOf value) := by
  rw [buildMsg, bind_eq_ok_iff] at h
  obtain ⟨b, hfold, hbuild⟩ := h
  obtain ⟨hb, args, hargs, hguessed⟩ := guessed_foldlM hfold
  rw [List.nil_append] at hargs
  obtain rfl := hargs
  exact parse_of_build hb haddress hguessed hplain hbuild

/-- A string and an array. -/
theorem buildMsg_eq_ok_nested :
    OscMessage.parse [47, 109, 0, 0, 44, 115, 91, 84, 93, 0, 0, 0, 97, 0, 0, 0] =
        .ok ⟨[47, 109, 0, 0, 44, 115, 91, 84, 93, 0, 0, 0, 97, 0, 0, 0], "/m",
          [.str "a", .list [.bool true]]⟩ ∧
      "/m" = "/m" ∧ [.str "a", .list [.bool true]] =
        receivedAll (valuesOf (.list [.str "a", .list [.bool true]])) :=
  @buildMsg_eq_ok "/m" (.list [.str "a", .list [.bool true]]) (by decide)
    (by simp [valuesOf, PlainAll, Plain]) _ rfl

/-- **Which messages can be built**: those with an address, of values that can be sent. -/
theorem exists_buildMsg_iff (haddress : Char.ofNat 0 ∉ address.toList)
    (hplain : PlainAll (valuesOf value)) :
    (∃ m, buildMsg address value = .ok m) ↔ address ≠ "" ∧ SendableAll (valuesOf value) := by
  simp only [buildMsg, bind_eq_ok_iff]
  constructor
  · rintro ⟨m, b, hfold, hbuild⟩
    obtain ⟨hb, args, hargs, hguessed⟩ := guessed_foldlM hfold
    rw [List.nil_append] at hargs
    obtain rfl := hargs
    exact (builds_iff hb haddress hguessed hplain).mp ⟨m, hbuild⟩
  · intro h
    obtain ⟨b, hfold⟩ := exists_foldlM h.2 { address := some address }
    obtain ⟨hb, args, hargs, hguessed⟩ := guessed_foldlM hfold
    rw [List.nil_append] at hargs
    obtain rfl := hargs
    obtain ⟨m, hm⟩ := (builds_iff hb haddress hguessed hplain).mpr h
    exact ⟨m, b, hfold, hm⟩

theorem exists_buildMsg_nested :
    (∃ m, buildMsg "/m" (.list [.str "a", .list [.bool true]]) = .ok m) ↔
      "/m" ≠ "" ∧ SendableAll (valuesOf (.list [.str "a", .list [.bool true]])) :=
  exists_buildMsg_iff (by decide) (by simp [valuesOf, PlainAll, Plain])

end OscMessageBuilder

end LooperControl
