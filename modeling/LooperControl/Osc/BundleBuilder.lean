import LooperControl.Osc.Bundle

/-!
# `OscBundleBuilder`

A bundle is built of elements that have been built before, and is parsed at once.

* `IsElement`: an element as its constructor makes it, recognised by its datagram.
* `isElement_of_build`: what is built is such an element. It has the elements that it was built of,
  apart from the messages whose address does not begin with a slash.
* `exists_build_iff`: it is built unless one of them is too long.
-/

namespace LooperControl

open Slice OscTypes Recursion Fallible OscBundle

/-- `OscBundleBuilder`: its timestamp and the elements that have been added. -/
structure OscBundleBuilder where
  timestamp : Double
  contents : List OscContent := []

namespace OscBundleBuilder

/-- `add_content`. -/
def addContent (b : OscBundleBuilder) (content : OscContent) : OscBundleBuilder :=
  { b with contents := b.contents ++ [content] }

/-- The loop over the contents. -/
def writeContents (contents : List OscContent) (dgram : Bytes) : Except OscExc Bytes :=
  contents.foldlM (fun dgram content =>
    (writeInt (.int content.dgram.length)).map fun l => dgram ++ l ++ content.dgram) dgram

/-- An exception that leaves the `try` of `build`. -/
def raisedAs : OscExc → OscExc
  | .typesBuild => .bundleBuild
  | e => e

/-- The bytes that `build` puts together. -/
def datagram (b : OscBundleBuilder) : Except OscExc Bytes :=
  ((writeDate b.timestamp).bind fun date =>
    writeContents b.contents (bundlePrefix ++ date)).mapError raisedAs

/-- `build`, which parses what it has put together. -/
def build (n : ℕ) (b : OscBundleBuilder) : Option (Except OscExc OscContent) :=
  andThen (some b.datagram) (OscBundle.parse n)

/-! ### Elements -/

/-- An element that has come out of its constructor and is recognised by its datagram: a message is
not to `#bundle`, a bundle has its prefix. -/
def IsElement : OscContent → Prop
  | .message m => OscMessage.parse m.dgram = .ok m ∧ m.address ≠ "#bundle"
  | .bundle dgram timestamp contents =>
    dgramIsBundle dgram ∧
      ∃ n, OscBundle.parse n dgram = some (.ok (.bundle dgram timestamp contents))

/-- An element that is kept: messages to an address without a slash in front are dropped. -/
def kept : OscContent → Bool
  | .message m => m.address.toList.head? = some '/'
  | .bundle .. => true

/-- An element is read as it was, if it is kept. -/
theorem parseElement_of_isElement {c : OscContent} (h : IsElement c) :
    ∃ n, parseElement (unroll contentsStep n) c.dgram = some (.ok ([c].filter kept)) := by
  rcases c with m | ⟨dgram, timestamp, contents⟩
  · obtain ⟨hparse, haddress⟩ := h
    refine ⟨0, ?_⟩
    have hbundle : ¬dgramIsBundle m.dgram := by rwa [dgramIsBundle_iff hparse]
    rw [parseElement, OscContent.dgram, if_neg hbundle]
    by_cases hslash : m.address.toList.head? = some '/'
    · rw [if_pos ((OscMessage.dgramIsMessage_iff hparse).mpr hslash), hparse,
        List.filter_cons_of_pos (by simpa [kept] using hslash)]
      rfl
    · rw [if_neg (by rwa [OscMessage.dgramIsMessage_iff hparse]),
        List.filter_cons_of_neg (by simpa [kept] using hslash)]
      rfl
  · obtain ⟨hbundle, n, hparse⟩ := h
    refine ⟨n, ?_⟩
    rw [parseElement, OscContent.dgram, if_pos hbundle]
    rw [OscBundle.parse] at hparse
    rw [hparse]
    rfl

theorem writeContents_cons (c : OscContent) (contents : List OscContent) (dgram : Bytes) :
    writeContents (c :: contents) dgram = (writeInt (.int c.dgram.length)).bind fun l =>
      writeContents contents (dgram ++ l ++ c.dgram) := by
  rw [writeContents, foldlM_cons]
  cases writeInt (.int c.dgram.length) <;> rfl

/-- **Elements that are written are read** from where they begin. -/
theorem unroll_of_writeContents {contents : List OscContent} (h : ∀ c ∈ contents, IsElement c)
    {front dgram : Bytes} (hwrite : writeContents contents front = .ok dgram) :
    ∃ bytes n, dgram = front ++ bytes ∧
      unroll contentsStep n (dgram, front.length) = some (.ok (contents.filter kept)) := by
  induction contents generalizing front with
  | nil =>
    obtain rfl := Except.ok.inj hwrite
    refine ⟨[], 1, (List.append_nil front).symm, ?_⟩
    have hend := sliceFrom_append front ([] : Bytes)
    rw [List.append_nil] at hend
    rw [unroll, contentsStep, if_pos hend]
    rfl
  | cons c contents ih =>
    rw [List.forall_mem_cons] at h
    rw [writeContents_cons, bind_eq_ok_iff] at hwrite
    obtain ⟨l, hl, hwrite⟩ := hwrite
    obtain ⟨bytes, n, rfl, hrest⟩ := ih h.2 hwrite
    obtain ⟨m, helement⟩ := parseElement_of_isElement h.1
    have hread := reads_writeInt rfl hl front (c.dgram ++ bytes)
    have hslice := slice_append (front ++ l) c.dgram bytes
    have hat : ElementAt (front ++ l ++ c.dgram ++ bytes) front.length c.dgram
        ((front ++ l ++ c.dgram).length : ℕ) := by
      refine ⟨c.dgram.length, front.length + l.length, ?_, ?_, ?_⟩
      · simp only [List.append_assoc]
        exact hread
      · simp only [List.length_append]
        push_cast
        ring
      · rw [List.append_assoc, List.length_append, Nat.cast_add, ← Nat.cast_add,
          ← List.length_append]
        exact hslice.symm
    refine ⟨l ++ c.dgram ++ bytes, max m n + 1, by simp only [List.append_assoc], ?_⟩
    have helement' := parseElement_extends
      (fun s r => unroll_of_le isMonotone_contentsStep (Nat.le_max_left m n)) _ _ helement
    have hrest' := unroll_of_le isMonotone_contentsStep (Nat.le_max_right m n) hrest
    rw [unroll, contentsStep_of_elementAt hat, helement', some_ok_andThen, hrest', some_ok_andThen,
      ← List.filter_append, List.singleton_append]

/-- Elements can be written when their lengths can. -/
theorem exists_writeContents_iff {contents : List OscContent} {front : Bytes} :
    (∃ dgram, writeContents contents front = .ok dgram) ↔
      ∀ c ∈ contents, c.dgram.length < 2 ^ 31 := by
  induction contents generalizing front with
  | nil => exact iff_of_true ⟨front, rfl⟩ (List.forall_mem_nil _)
  | cons c contents ih =>
    have hint : (∃ l, writeInt (.int c.dgram.length) = .ok l) ↔ c.dgram.length < 2 ^ 31 := by
      refine exists_packInteger_iff.trans ?_
      omega
    rw [writeContents_cons, List.forall_mem_cons, ← hint]
    cases writeInt (.int c.dgram.length) with
    | error e => simp
    | ok l => simp [ih]

/-! ### Building -/

variable {b : OscBundleBuilder}

/-- What is built of elements: a date, and the elements behind it. -/
theorem build_of_datagram (h : ∀ c ∈ b.contents, IsElement c) {dgram : Bytes}
    (hdatagram : b.datagram = .ok dgram) :
    ∃ date s n, writeDate b.timestamp = .ok date ∧ Reads getDate date s ∧ dgramIsBundle dgram ∧
      OscBundle.parse n dgram = some (.ok (.bundle dgram s (b.contents.filter kept))) := by
  rw [datagram, mapError_eq_ok_iff, bind_eq_ok_iff] at hdatagram
  obtain ⟨date, hdate, hwrite⟩ := hdatagram
  obtain ⟨hlength, s, hreads⟩ := exists_reads_of_writeDate hdate
  obtain ⟨bytes, n, rfl, hcontents⟩ := unroll_of_writeContents h hwrite
  refine ⟨date, s, n, hdate, hreads, ?_, ?_⟩
  · rw [dgramIsBundle, List.isPrefixOf_iff_prefix, List.append_assoc]
    exact List.prefix_append _ _
  · have hread := hreads bundlePrefix bytes
    rw [← List.append_assoc, ← Nat.cast_add, ← List.length_append] at hread
    rw [OscBundle.parse, parseBundle, hread]
    simp only [Except.mapError, some_ok_andThen]
    rw [hcontents]
    rfl

/-- **A bundle that is built is read back**: its datagram is parsed as the bundle itself, with the
elements that it was built of, in order, and with its time. -/
theorem isElement_of_build (h : ∀ c ∈ b.contents, IsElement c) {n : ℕ} {c : OscContent}
    (hbuild : build n b = some (.ok c)) :
    IsElement c ∧ ∃ dgram s, c = .bundle dgram s (b.contents.filter kept) ∧
      ∀ t, b.timestamp = .finite t → -61505152 ≤ t → |s - t| ≤ 2 ^ (-22 : ℤ) := by
  rw [build, andThen_eq_some_ok_iff] at hbuild
  obtain ⟨dgram, hdatagram, hparse⟩ := hbuild
  obtain ⟨date, s, m, hdate, hreads, hbundle, hparse'⟩ :=
    build_of_datagram h (Option.some.inj hdatagram)
  obtain rfl := Except.ok.inj (parse_unique hparse hparse')
  refine ⟨⟨hbundle, m, hparse'⟩, dgram, s, rfl, ?_⟩
  intro t ht hlow
  rw [ht] at hdate
  obtain ⟨s', hreads', hnear⟩ := reads_writeDate hlow hdate
  rwa [hreads.unique hreads']

/-- A message that is to be handled at once. -/
def greeting : OscBundleBuilder :=
  addContent ⟨.finite 0, []⟩ (.message ⟨[47, 97, 0, 0], "/a", []⟩)

theorem isElement_greeting : ∀ c ∈ greeting.contents, IsElement c := by
  intro c hc
  obtain rfl := List.mem_singleton.mp hc
  exact ⟨rfl, by decide⟩

theorem isElement_of_build_greeting : ∃ c, IsElement c ∧ ∃ dgram s,
    c = .bundle dgram s (greeting.contents.filter kept) ∧
      ∀ t, greeting.timestamp = .finite t → -61505152 ≤ t → |s - t| ≤ 2 ^ (-22 : ℤ) := by
  have hdatagram : greeting.datagram = .ok [35, 98, 117, 110, 100, 108, 101, 0, 0, 0, 0, 0, 0, 0, 0,
      1, 0, 0, 0, 4, 47, 97, 0, 0] := rfl
  obtain ⟨-, s, n, -, -, -, hparse⟩ := build_of_datagram isElement_greeting hdatagram
  exact ⟨_, isElement_of_build isElement_greeting (by rw [build, hdatagram]; exact hparse)⟩

/-- **Which bundles are built**: of elements whose lengths fit into 31 bits, at a time that fits
into a date. For others an exception is raised. -/
theorem exists_build_iff (h : ∀ c ∈ b.contents, IsElement c) :
    (∃ n c, build n b = some (.ok c)) ↔
      (∃ date, writeDate b.timestamp = .ok date) ∧ ∀ c ∈ b.contents, c.dgram.length < 2 ^ 31 := by
  have hdatagram : (∃ dgram, b.datagram = .ok dgram) ↔
      (∃ date, writeDate b.timestamp = .ok date) ∧ ∀ c ∈ b.contents, c.dgram.length < 2 ^ 31 := by
    simp only [datagram, mapError_eq_ok_iff, bind_eq_ok_iff]
    constructor
    · rintro ⟨dgram, date, hdate, hwrite⟩
      exact ⟨⟨date, hdate⟩, exists_writeContents_iff.mp ⟨dgram, hwrite⟩⟩
    · rintro ⟨⟨date, hdate⟩, hsize⟩
      obtain ⟨dgram, hwrite⟩ := exists_writeContents_iff.mpr hsize
      exact ⟨dgram, date, hdate, hwrite⟩
  rw [← hdatagram]
  constructor
  · rintro ⟨n, c, hbuild⟩
    rw [build, andThen_eq_some_ok_iff] at hbuild
    obtain ⟨dgram, hdgram, -⟩ := hbuild
    exact ⟨dgram, Option.some.inj hdgram⟩
  · rintro ⟨dgram, hdgram⟩
    obtain ⟨-, s, n, -, -, -, hparse⟩ := build_of_datagram h hdgram
    exact ⟨n, _, by rw [build, hdgram, some_ok_andThen, hparse]⟩

theorem exists_build_greeting : (∃ n c, build n greeting = some (.ok c)) ↔
    (∃ date, writeDate greeting.timestamp = .ok date) ∧
      ∀ c ∈ greeting.contents, c.dgram.length < 2 ^ 31 :=
  exists_build_iff isElement_greeting

end OscBundleBuilder

end LooperControl
