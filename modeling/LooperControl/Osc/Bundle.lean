import LooperControl.Lib.Recursion
import LooperControl.Osc.Dates
import LooperControl.Osc.Message
import Mathlib.Data.Int.Interval

/-!
# `OscBundle`

A bundle is a time and elements, each behind its size. The loop over the elements goes wherever the
sizes lead: a negative one leads back, and then the loop may never end.

* `contentsStep`: the loop and the constructor, as the body of a recursion (`parse` unrolls it).
* `Hangs`: the loop comes back to an index, in a bundle or in one that it contains.
* `parse_eq_none_iff`: exactly then the constructor never returns.
* `exists_parse`: it does return where no four bytes are a size of -4 or less.

The depth of bundles in bundles has no limit here.
-/

namespace LooperControl

open Slice OscTypes Recursion

/-- An element of a bundle: an `OscMessage`, or an `OscBundle` with `_dgram`, `_timestamp` and
`_contents`. -/
inductive OscContent
  | message (m : OscMessage)
  | bundle (dgram : Bytes) (timestamp : ℚ) (contents : List OscContent)

/-- The datagram that an element was built from. -/
def OscContent.dgram : OscContent → Bytes
  | .message m => m.dgram
  | .bundle dgram _ _ => dgram

namespace OscBundle

/-- `_BUNDLE_PREFIX`. -/
def bundlePrefix : Bytes := [35, 98, 117, 110, 100, 108, 101, 0]

/-- `dgram_is_bundle`. -/
def dgramIsBundle (dgram : Bytes) : Bool := bundlePrefix.isPrefixOf dgram

/-- An exception that leaves a `try` around the other parsers. -/
def raisedAs : OscExc → OscExc
  | .typesParse => .bundleParse
  | .messageParse => .bundleParse
  | e => e

/-- `OscBundle(dgram)`, given what parses the contents of a datagram from an index on. -/
def parseBundle (contents : Bytes × ℤ → Option (Except OscExc (List OscContent))) (dgram : Bytes) :
    Option (Except OscExc OscContent) :=
  andThen (some ((getDate dgram bundlePrefix.length).mapError raisedAs)) fun (timestamp, index) =>
    andThen (contents (dgram, index)) fun l => some (.ok (.bundle dgram timestamp l))

/-- What an element adds to the contents: nothing when it is neither a bundle nor a message. -/
def parseElement (contents : Bytes × ℤ → Option (Except OscExc (List OscContent))) (dgram : Bytes) :
    Option (Except OscExc (List OscContent)) :=
  if dgramIsBundle dgram then andThen (parseBundle contents dgram) fun b => some (.ok [b])
  else if OscMessage.dgramIsMessage dgram then
    some (((OscMessage.parse dgram).mapError raisedAs).map fun m => [.message m])
  else some (.ok [])

/-- `_parse_contents`: one round of its loop, and the rest by another call. -/
def contentsStep (contents : Bytes × ℤ → Option (Except OscExc (List OscContent))) :
    Bytes × ℤ → Option (Except OscExc (List OscContent))
  | (dgram, index) =>
    if sliceFrom dgram index = [] then some (.ok [])
    else
      andThen (some ((getInt dgram index).mapError raisedAs)) fun (size, start) =>
        andThen (parseElement contents (slice dgram start (start + size))) fun element =>
          andThen (contents (dgram, start + size)) fun rest => some (.ok (element ++ rest))

/-- `OscBundle(dgram)`, with at most `n` rounds of the loop and bundles inside one another. -/
def parse (n : ℕ) (dgram : Bytes) : Option (Except OscExc OscContent) :=
  parseBundle (unroll contentsStep n) dgram

/-! ### One round of the loop -/

variable {dgram element : Bytes} {i j : ℤ}
  {f g : Bytes × ℤ → Option (Except OscExc (List OscContent))}

theorem parseBundle_extends (h : Extends f g) : Extends (parseBundle f) (parseBundle g) := by
  intro dgram r hr
  refine andThen_extends (fun _ h => h) ?_ hr
  rintro ⟨timestamp, index⟩ r hr
  exact andThen_extends (fun r => h _ r) (fun _ _ h => h) hr

theorem parseElement_extends (h : Extends f g) : Extends (parseElement f) (parseElement g) := by
  intro dgram r hr
  rw [parseElement] at hr ⊢
  split at hr
  · rename_i hbundle
    rw [if_pos hbundle]
    exact andThen_extends (fun r => parseBundle_extends h dgram r) (fun _ _ h => h) hr
  · rename_i hbundle
    rwa [if_neg hbundle]

theorem isMonotone_contentsStep : IsMonotone contentsStep := by
  rintro f g h ⟨dgram, index⟩ r hr
  rw [contentsStep] at hr ⊢
  split at hr
  · rename_i hend
    rwa [if_pos hend]
  · rename_i hend
    rw [if_neg hend]
    refine andThen_extends (fun _ h => h) ?_ hr
    rintro ⟨size, start⟩ r hr
    refine andThen_extends (fun r => parseElement_extends h _ r) ?_ hr
    intro element r hr
    exact andThen_extends (fun r => h _ r) (fun _ _ h => h) hr

/-- A size at an index, the element that it announces and the index behind that. -/
def ElementAt (dgram : Bytes) (i : ℤ) (element : Bytes) (j : ℤ) : Prop :=
  ∃ size start, getInt dgram i = .ok (size, start) ∧ j = start + size ∧
    element = slice dgram start j

/-- A value is read either from the front or from the end. -/
theorem bounds_of_getFixed {α : Type} {w : ℕ} {unpack : Bytes → α} {a : α} (hw : 0 < w)
    (h : getFixed w unpack dgram i = .ok (a, j)) :
    j = i + w ∧ a = unpack (slice dgram i j) ∧
      (0 ≤ i ∧ j ≤ dgram.length ∨ -dgram.length ≤ i ∧ j < 0) := by
  rw [getFixed] at h
  split at h
  · cases h
  simp only at h
  split at h
  · rename_i hlength
    obtain ⟨rfl, rfl⟩ := Prod.mk.inj (Except.ok.inj h)
    refine ⟨rfl, rfl, ?_⟩
    rw [length_slice, clamp, clamp] at hlength
    split at hlength <;> split at hlength <;> omega
  · cases h

theorem contentsStep_of_elementAt (h : ElementAt dgram i element j) :
    contentsStep f (dgram, i) = andThen (parseElement f element) fun element =>
      andThen (f (dgram, j)) fun rest => some (.ok (element ++ rest)) := by
  obtain ⟨size, start, hint, rfl, rfl⟩ := h
  have hne : sliceFrom dgram i ≠ [] := by
    intro hnil
    rw [getInt, getFixed, hnil] at hint
    cases hint
  rw [contentsStep, if_neg hne, hint]
  rfl

/-- Where the loop ends, by itself or with an exception. -/
theorem contentsStep_of_not_elementAt (h : ∀ element j, ¬ElementAt dgram i element j) :
    ∃ r, ∀ f, contentsStep f (dgram, i) = some r := by
  by_cases hend : sliceFrom dgram i = []
  · exact ⟨.ok [], fun f => by rw [contentsStep, if_pos hend]⟩
  · rcases hint : getInt dgram i with e | ⟨size, start⟩
    · exact ⟨.error (raisedAs e), fun f => by rw [contentsStep, if_neg hend, hint]; rfl⟩
    · exact absurd ⟨size, start, hint, rfl, rfl⟩ (h _ _)

/-- Elements are shorter than the datagram by the bytes of their size. -/
theorem length_of_elementAt (h : ElementAt dgram i element j) :
    element.length + 4 ≤ dgram.length := by
  obtain ⟨size, start, hint, rfl, rfl⟩ := h
  obtain ⟨hstart, -, hbounds⟩ := bounds_of_getFixed (by decide) hint
  have hle := clamp_le dgram.length (start + size)
  have hclamp : 4 ≤ clamp dgram.length start := by
    rw [clamp]
    split <;> omega
  have hlength := length_slice dgram start (start + size)
  omega

/-- Parsing an element takes forever exactly where it is a bundle with such contents. -/
theorem parseElement_eq_none_iff : parseElement f element = none ↔
    dgramIsBundle element ∧ ∃ timestamp index,
      getDate element bundlePrefix.length = .ok (timestamp, index) ∧ f (element, index) = none := by
  have hbundle : parseBundle f element = none ↔ ∃ timestamp index,
      getDate element bundlePrefix.length = .ok (timestamp, index) ∧ f (element, index) = none := by
    rw [parseBundle, andThen_eq_none_iff]
    rcases getDate element bundlePrefix.length with e | ⟨timestamp, index⟩
    · simp [Except.mapError]
    · simp [Except.mapError, andThen_eq_none_iff]
  rw [parseElement, ← hbundle]
  split
  · rename_i h
    simp [andThen_eq_none_iff, h]
  · rename_i h
    split <;> simp [h]

/-- What a bundle's constructor raises: its own exception, or the one for bytes that are no
UTF-8. -/
def IsBundleError (e : OscExc) : Prop := e = .bundleParse ∨ e = .unicodeDecode

theorem isBundleError_raisedAs {e : OscExc} (h : IsReadError e ∨ e = .messageParse) :
    IsBundleError (raisedAs e) := by
  rcases h with (rfl | rfl) | rfl
  · exact .inl rfl
  · exact .inr rfl
  · exact .inl rfl

theorem isReadError_getDate {e : OscExc} (h : getDate dgram i = .error e) : IsReadError e := by
  rw [getDate] at h
  split at h
  · cases h
  · exact isReadError_getFixed (Fallible.map_eq_error_iff.mp h)

theorem isBundleError_parseBundle
    (hf : ∀ s e, f s = some (.error e) → IsBundleError e) {e : OscExc}
    (h : parseBundle f dgram = some (.error e)) : IsBundleError e := by
  rcases andThen_eq_some_error_iff.mp h with h | ⟨r, -, h⟩
  · obtain ⟨e', hdate, rfl⟩ := Fallible.mapError_eq_error_iff.mp (Option.some.inj h)
    exact isBundleError_raisedAs (.inl (isReadError_getDate hdate))
  · rcases andThen_eq_some_error_iff.mp h with h | ⟨contents, -, h⟩
    · exact hf _ _ h
    · cases h

theorem isBundleError_parseElement
    (hf : ∀ s e, f s = some (.error e) → IsBundleError e) {e : OscExc}
    (h : parseElement f element = some (.error e)) : IsBundleError e := by
  rw [parseElement] at h
  split at h
  · rcases andThen_eq_some_error_iff.mp h with h | ⟨b, -, h⟩
    · exact isBundleError_parseBundle hf h
    · cases h
  split at h
  · have hmap := Fallible.map_eq_error_iff.mp (Option.some.inj h)
    obtain ⟨e', hparse, rfl⟩ := Fallible.mapError_eq_error_iff.mp hmap
    rcases OscMessage.error_of_parse hparse with rfl | rfl
    · exact .inl rfl
    · exact .inr rfl
  · cases h

theorem isBundleError_unroll (n : ℕ) (s : Bytes × ℤ) (e : OscExc)
    (h : unroll contentsStep n s = some (.error e)) : IsBundleError e := by
  induction n generalizing s e with
  | zero => cases h
  | succ n ih =>
    obtain ⟨dgram, index⟩ := s
    rw [unroll, contentsStep] at h
    split at h
    · cases h
    rcases andThen_eq_some_error_iff.mp h with h | ⟨r, -, h⟩
    · obtain ⟨e', hint, rfl⟩ := Fallible.mapError_eq_error_iff.mp (Option.some.inj h)
      exact isBundleError_raisedAs (.inl (isReadError_getFixed hint))
    rcases andThen_eq_some_error_iff.mp h with h | ⟨element, -, h⟩
    · exact isBundleError_parseElement ih h
    rcases andThen_eq_some_error_iff.mp h with h | ⟨rest, -, h⟩
    · exact ih _ _ h
    · cases h

/-- What is parsed does not depend on the depth. -/
theorem parse_unique {m n : ℕ} {r r' : Except OscExc OscContent} (h : parse m dgram = some r)
    (h' : parse n dgram = some r') : r = r' := by
  have hm := parseBundle_extends
    (fun s r => unroll_of_le isMonotone_contentsStep (Nat.le_max_left m n)) _ _ h
  have hn := parseBundle_extends
    (fun s r => unroll_of_le isMonotone_contentsStep (Nat.le_max_right m n)) _ _ h'
  exact Option.some.inj (hm.symm.trans hn)

/-! ### Bundles that are never parsed -/

/-- The loop goes on from one index to another. -/
def Next (dgram : Bytes) (i j : ℤ) : Prop :=
  ∃ element, ElementAt dgram i element j ∧
    ∃ n contents, parseElement (unroll contentsStep n) element = some (.ok contents)

/-- A loop that never ends: it comes back to an index, or it comes to a bundle whose own loop never
ends. -/
inductive Hangs : Bytes × ℤ → Prop
  | cycle {dgram : Bytes} {i : ℤ} (h : Relation.TransGen (Next dgram) i i) : Hangs (dgram, i)
  | later {dgram : Bytes} {i j : ℤ} (h : Next dgram i j) (hlater : Hangs (dgram, j)) :
      Hangs (dgram, i)
  | nested {dgram element : Bytes} {i j index : ℤ} {timestamp : ℚ}
      (h : ElementAt dgram i element j) (hbundle : dgramIsBundle element)
      (hdate : getDate element bundlePrefix.length = .ok (timestamp, index))
      (hnested : Hangs (element, index)) : Hangs (dgram, i)

/-- A round after which the loop never ends. -/
theorem unroll_eq_none_of_next {n : ℕ} (h : Next dgram i j)
    (hlater : unroll contentsStep n (dgram, j) = none) :
    unroll contentsStep (n + 1) (dgram, i) = none := by
  obtain ⟨element, hat, m, contents, hcontents⟩ := h
  rw [unroll, contentsStep_of_elementAt hat, andThen_eq_none_iff]
  rcases helement : parseElement (unroll contentsStep n) element with _ | r
  · exact .inl rfl
  · -- Parsed to this depth the element is what it is to the other one.
    have hsame : r = .ok contents := by
      rcases Nat.le_total m n with hmn | hnm
      · have hext := parseElement_extends (fun s r => unroll_of_le isMonotone_contentsStep hmn)
          element _ hcontents
        exact Option.some.inj (helement.symm.trans hext)
      · have hext := parseElement_extends (fun s r => unroll_of_le isMonotone_contentsStep hnm)
          element _ helement
        exact Option.some.inj (hext.symm.trans hcontents)
    exact .inr ⟨contents, congrArg some hsame, by rw [hlater, none_andThen]⟩

theorem unroll_eq_none_of_hangs {s : Bytes × ℤ} (h : Hangs s) (n : ℕ) :
    unroll contentsStep n s = none := by
  refine unroll_eq_none (P := Hangs) ?_ h n
  rintro n s hs ih
  cases hs with
  | cycle hcycle =>
    obtain ⟨j, hnext, hback⟩ := Relation.TransGen.head'_iff.mp hcycle
    exact unroll_eq_none_of_next hnext
      (ih _ (.cycle (Relation.TransGen.tail' hback hnext)))
  | later hnext hlater => exact unroll_eq_none_of_next hnext (ih _ hlater)
  | nested hat hbundle hdate hnested =>
    rw [unroll, contentsStep_of_elementAt hat, andThen_eq_none_iff]
    exact .inl (parseElement_eq_none_iff.mpr ⟨hbundle, _, _, hdate, ih _ hnested⟩)

/-- A loop that never returns goes on, or it stands at a bundle whose loop never returns. -/
theorem next_of_unroll_eq_none (h : ∀ n, unroll contentsStep n (dgram, i) = none) :
    (∃ j, Next dgram i j ∧ ∀ n, unroll contentsStep n (dgram, j) = none) ∨
      ∃ element j timestamp index, ElementAt dgram i element j ∧ dgramIsBundle element ∧
        getDate element bundlePrefix.length = .ok (timestamp, index) ∧
          ∀ n, unroll contentsStep n (element, index) = none := by
  by_cases hat : ∃ element j, ElementAt dgram i element j
  · obtain ⟨element, j, hat⟩ := hat
    by_cases hnever : ∀ n, parseElement (unroll contentsStep n) element = none
    · refine .inr ?_
      obtain ⟨hbundle, timestamp, index, hdate, -⟩ := parseElement_eq_none_iff.mp (hnever 0)
      refine ⟨element, j, timestamp, index, hat, hbundle, hdate, fun n => ?_⟩
      obtain ⟨-, timestamp', index', hdate', hn⟩ := parseElement_eq_none_iff.mp (hnever n)
      obtain ⟨-, rfl⟩ := Prod.mk.inj (Except.ok.inj (hdate.symm.trans hdate'))
      exact hn
    · push Not at hnever
      obtain ⟨n, hn⟩ := hnever
      obtain ⟨r, hr⟩ := Option.ne_none_iff_exists'.mp hn
      rcases r with e | contents
      · have hnone := h (n + 1)
        rw [unroll, contentsStep_of_elementAt hat, hr] at hnone
        cases hnone
      · refine .inl ⟨j, ⟨element, hat, n, contents, hr⟩, fun m => ?_⟩
        -- What the rest returned, the whole would have returned.
        by_contra hj
        obtain ⟨r, hrest⟩ := Option.ne_none_iff_exists'.mp hj
        have helement := parseElement_extends
          (fun s r => unroll_of_le isMonotone_contentsStep (Nat.le_max_left n m)) element _ hr
        have hrest' := unroll_of_le isMonotone_contentsStep (Nat.le_max_right n m) hrest
        have hnone := h (max n m + 1)
        rw [unroll, contentsStep_of_elementAt hat, helement, some_ok_andThen, hrest'] at hnone
        rcases r with e | rest <;> cases hnone
  · push Not at hat
    obtain ⟨r, hr⟩ := contentsStep_of_not_elementAt hat
    have hnone := h 1
    rw [unroll, hr] at hnone
    cases hnone

/-- Indexes that the loop goes on from are within the datagram. -/
theorem Next.bounds (h : Next dgram i j) : -(dgram.length : ℤ) ≤ i ∧ i ≤ dgram.length := by
  obtain ⟨element, ⟨size, start, hint, -⟩, -⟩ := h
  obtain ⟨hstart, -, hbounds⟩ := bounds_of_getFixed (by decide) hint
  constructor <;> omega

/-- **A loop that never returns comes back** to an index, in a bundle or in one that it contains. -/
theorem hangs_of_unroll_eq_none (h : ∀ n, unroll contentsStep n (dgram, i) = none) :
    Hangs (dgram, i) := by
  induction hlength : dgram.length using Nat.strong_induction_on generalizing dgram i with
  | _ length ih =>
    by_contra hhangs
    let S : Set ℤ := {i | (∀ n, unroll contentsStep n (dgram, i) = none) ∧ ¬Hangs (dgram, i)}
    have hnext : ∀ a ∈ S, ∃ b ∈ S, Next dgram a b := by
      rintro a ⟨hnone, ha⟩
      rcases next_of_unroll_eq_none hnone with ⟨b, hnext, hb⟩ | hnested
      · exact ⟨b, ⟨hb, fun hlater => ha (.later hnext hlater)⟩, hnext⟩
      · obtain ⟨element, j, timestamp, index, hat, hbundle, hdate, hn⟩ := hnested
        have hshort := length_of_elementAt hat
        exact absurd (.nested hat hbundle hdate (ih element.length (by omega) hn rfl)) ha
    have hfin : S.Finite := by
      refine (Set.finite_Icc (-(dgram.length : ℤ)) dgram.length).subset fun a ha => ?_
      obtain ⟨b, -, hb⟩ := hnext a ha
      exact hb.bounds
    obtain ⟨a, ha, hcycle⟩ := exists_transGen_self hfin ⟨h, hhangs⟩ hnext
    exact ha.2 (.cycle hcycle)

theorem parse_eq_none_iff_parseBundle {n : ℕ} : parse n dgram = none ↔
    ∃ timestamp index, getDate dgram bundlePrefix.length = .ok (timestamp, index) ∧
      unroll contentsStep n (dgram, index) = none := by
  rw [parse, parseBundle, andThen_eq_none_iff]
  rcases getDate dgram bundlePrefix.length with e | ⟨timestamp, index⟩
  · simp [Except.mapError]
  · simp [Except.mapError, andThen_eq_none_iff]

/-- **Which bundles are never parsed**: those whose loop, or that of a bundle inside, comes back to
an index. -/
theorem parse_eq_none_iff : (∀ n, parse n dgram = none) ↔
    ∃ timestamp index, getDate dgram bundlePrefix.length = .ok (timestamp, index) ∧
      Hangs (dgram, index) := by
  simp only [parse_eq_none_iff_parseBundle]
  constructor
  · intro h
    obtain ⟨timestamp, index, hdate, -⟩ := h 0
    refine ⟨timestamp, index, hdate, hangs_of_unroll_eq_none fun n => ?_⟩
    obtain ⟨timestamp', index', hdate', hn⟩ := h n
    obtain ⟨-, rfl⟩ := Prod.mk.inj (Except.ok.inj (hdate.symm.trans hdate'))
    exact hn
  · rintro ⟨timestamp, index, hdate, hhangs⟩ n
    exact ⟨timestamp, index, hdate, unroll_eq_none_of_hangs hhangs n⟩

/-! ### Sizes -/

/-- A size of -4 leads back to itself. -/
theorem hangs_of_getInt {start : ℤ} (h : getInt dgram i = .ok (-4, start)) : Hangs (dgram, i) := by
  obtain ⟨hstart, -, hbounds⟩ := bounds_of_getFixed (by decide) h
  have hback : i = start + -4 := by omega
  have hempty : slice dgram start i = [] := by
    have hlength := length_slice dgram start i
    refine List.length_eq_zero_iff.mp ?_
    rw [hlength, clamp, clamp]
    split <;> split <;> omega
  refine .cycle (.single ⟨[], ⟨-4, start, h, hback, hempty.symm⟩, 0, [], rfl⟩)

/-- The loop only comes back over a size of -4 or less. -/
theorem exists_size_of_transGen {k : ℤ} (h : Relation.TransGen (Next dgram) i k) (hki : k ≤ i) :
    ∃ a size start, getInt dgram a = .ok (size, start) ∧ size ≤ -4 := by
  by_contra hne
  push Not at hne
  have hlt : Next dgram ≤ fun a b => a < b := by
    rintro a b ⟨element, ⟨size, start, hint, rfl, -⟩, -⟩
    obtain ⟨hstart, -, -⟩ := bounds_of_getFixed (by decide) hint
    have hsize := hne a size start hint
    omega
  have hik : i < k := Relation.transGen_minimal hlt _ _ h
  omega

/-- **A bundle whose loop never ends** has four bytes that are a size of -4 or less. -/
theorem exists_size_of_hangs {s : Bytes × ℤ} (h : Hangs s) :
    ∃ bytes, bytes <:+: s.1 ∧ bytes.length = 4 ∧ Bytes.toInt bytes ≤ -4 := by
  induction h with
  | @cycle dgram i hcycle =>
    obtain ⟨a, size, start, hint, hsize⟩ := exists_size_of_transGen hcycle le_rfl
    obtain ⟨hstart, rfl, hbounds⟩ := bounds_of_getFixed (by decide) hint
    refine ⟨slice dgram a start, slice_isInfix _ _ _, ?_, hsize⟩
    rw [length_slice, clamp, clamp]
    split <;> split <;> omega
  | later _ _ ih => exact ih
  | nested hat _ _ _ ih =>
    obtain ⟨bytes, hinfix, hbytes⟩ := ih
    obtain ⟨size, start, -, -, rfl⟩ := hat
    exact ⟨bytes, hinfix.trans (slice_isInfix _ _ _), hbytes⟩

/-- **The constructor returns** where no four bytes are such a size. -/
theorem exists_parse (h : ∀ bytes, bytes <:+: dgram → bytes.length = 4 → -4 < Bytes.toInt bytes) :
    ∃ n r, parse n dgram = some r := by
  by_contra hne
  push Not at hne
  obtain ⟨timestamp, index, -, hhangs⟩ :=
    parse_eq_none_iff.mp fun n => Option.eq_none_iff_forall_ne_some.mpr (hne n)
  obtain ⟨bytes, hinfix, hlength, hsize⟩ := exists_size_of_hangs hhangs
  have hgreater := h bytes hinfix hlength
  omega

/-! ### Messages that are taken for bundles -/

/-- Two strings without a zero, of which one with its zero begins the other with its own. -/
theorem eq_of_isPrefix_zero {l m rest : Bytes} (hl : 0 ∉ l) (hm : 0 ∉ m)
    (h : l ++ [0] <+: m ++ 0 :: rest) : l = m := by
  induction l generalizing m with
  | nil =>
    rcases m with _ | ⟨b, m⟩
    · rfl
    · rw [List.nil_append, List.cons_append, List.cons_prefix_cons] at h
      exact absurd (List.mem_cons.mpr (.inl h.1)) hm
  | cons a l ih =>
    rw [List.mem_cons, not_or] at hl
    rcases m with _ | ⟨b, m⟩
    · rw [List.nil_append, List.cons_append, List.cons_prefix_cons] at h
      exact absurd h.1.symm hl.1
    · rw [List.cons_append, List.cons_append, List.cons_prefix_cons] at h
      rw [List.mem_cons, not_or] at hm
      rw [h.1, ih hl.2 hm.2 h.2]

/-- The message that is taken for a bundle: the one to `#bundle`. -/
theorem dgramIsBundle_iff {m : OscMessage} (h : OscMessage.parse dgram = .ok m) :
    dgramIsBundle dgram ↔ m.address = "#bundle" := by
  obtain ⟨hzero, rest, rfl⟩ := OscMessage.dgram_eq_of_parse h
  have hprefix : bundlePrefix = Bytes.ofText "#bundle" ++ [0] := by decide
  rw [dgramIsBundle, List.isPrefixOf_iff_prefix, hprefix]
  constructor
  · intro hfront
    have htext := congrArg Bytes.toText (eq_of_isPrefix_zero (by decide) hzero hfront)
    rw [Bytes.toText_ofText, Bytes.toText_ofText] at htext
    exact (Option.some.inj htext).symm
  · intro haddress
    rw [haddress, List.prefix_append_right_inj]
    exact List.prefix_append [0] rest

end OscBundle

end LooperControl
