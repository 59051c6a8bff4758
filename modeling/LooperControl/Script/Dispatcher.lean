import LooperControl.Lib.Regex

/-!
# `Dispatcher`

The bundled OSC library finds the handlers of a message by its address. It compares in two
directions: the message's address is an OSC pattern, which is turned into a regular expression
for the registered addresses, and a registered address with a star in it is turned into one
for the message's address.

* `handlersForAddress` follows the code. The first expression may be invalid, which finds no
  handler; the second is compiled outside of the `try`, so that an invalid one raises.
* `handlersForAddress_eq`: an address of ordinary characters is handled by what is registered
  under it, and under `prefix/*` by that when it goes on after the slash.
-/

namespace LooperControl

/-- `Dispatcher`: the registered handlers by address, in the order of registration. -/
structure Dispatcher (α : Type) where
  map : List (String × List α) := []
  defaultHandler : Option α := none

namespace Dispatcher

variable {α : Type}

/-- The loop that a character of an address pattern is handled by: the outer one, or one of the
inner ones for brackets (at the first character or later) and braces. -/
inductive Loop
  | outer
  | bracket
  | inBrackets
  | inBraces
  deriving DecidableEq

/-- A character with a backslash before it, if it is one of those that need one. -/
def escape (special : String) (c : Char) : List Char :=
  if c ∈ special.toList then ['\\', c] else [c]

/-- What one character of an address pattern adds to the expression, and the loop after it. -/
def translateChar : Loop → Char → List Char × Loop
  | .outer, c =>
    if c = '*' then ("[^/]*".toList, .outer)
    else if c = '?' then ("[^/]".toList, .outer)
    else if c = '[' then (['['], .bracket)
    else if c = '\x7b' then (['('], .inBraces)
    else (escape "\\^$.|()[]+?" c, .outer)
  | .bracket, c =>
    if c = '!' then (['^'], .inBrackets)
    else if c = ']' then ([']'], .outer)
    else (escape "\\^$.|()+*?" c, .inBrackets)
  | .inBrackets, c =>
    if c = ']' then ([']'], .outer) else (escape "\\^$.|()+*?" c, .inBrackets)
  | .inBraces, c =>
    if c = '\x7d' then ([')'], .outer)
    else if c = ',' then (['|'], .inBraces)
    else (escape "\\^$.|()[]+*?" c, .inBraces)

/-- What the end of an address pattern adds in a loop that is not closed. -/
def translateEnd : Loop → List Char
  | .outer => []
  | .bracket => [']']
  | .inBrackets => [']']
  | .inBraces => [')']

/-- The expression between the anchors. -/
def translate : Loop → List Char → List Char
  | loop, [] => translateEnd loop
  | loop, c :: address => (translateChar loop c).1 ++ translate (translateChar loop c).2 address

/-- The expression that the pattern of a message is turned into. -/
def patternOf (address : String) : List Char := '^' :: translate .outer address.toList ++ ['$']

/-- The expression that a registered address with a star in it is turned into. -/
def wildcardOf (addr : String) : List Char :=
  (addr.toList.flatMap fun c => if c = '*' then ".*?".toList else [c]) ++ ['$']

/-- Whether a registered address is one for the address of a message; `none` when that raises. -/
def matchesAddress (pattern : Regex) (address addr : String) : Option Bool :=
  if pattern.matchesFront addr.toList then some true
  else if '*' ∈ addr.toList then
    (Regex.compile (wildcardOf addr)).map fun wildcard => wildcard.matchesFront address.toList
  else some false

/-- The loop over the registered addresses: what is yielded, and whether anything matched. -/
def search (pattern : Regex) (address : String) :
    List (String × List α) → Option (List α × Bool)
  | [] => some ([], false)
  | (addr, handlers) :: map =>
    (matchesAddress pattern address addr).bind fun matched =>
      (search pattern address map).map fun rest =>
        if matched then (handlers ++ rest.1, true) else rest

/-- `handlers_for_address`: the handlers in the order they are yielded, `none` when it raises. -/
def handlersForAddress (d : Dispatcher α) (address : String) : Option (List α) :=
  match Regex.compile (patternOf address) with
  | none => some []
  | some pattern =>
    (search pattern address d.map).map fun found =>
      if found.2 then found.1 else d.defaultHandler.toList

/-- `map` of an address that is not registered yet. -/
def register (d : Dispatcher α) (addr : String) (handler : α) : Dispatcher α :=
  { d with map := d.map ++ [(addr, [handler])] }

/-! ### Ordinary addresses -/

/-- The characters that do not stand for themselves in both expressions. -/
def special : List Char := "\\^$.|()[]+*?\x7b\n".toList

/-- An address of characters that stand for themselves. -/
def Ordinary (address : List Char) : Prop := ∀ c ∈ address, c ∉ special

instance (address : List Char) : Decidable (Ordinary address) := List.decidableBAll _ _

theorem notMem_metacharacters {address : List Char} (h : Ordinary address) :
    ∀ c ∈ address, c ∉ Regex.metacharacters := by
  intro c hc hmeta
  have hsub : Regex.metacharacters ⊆ special := by decide
  exact h c hc (hsub hmeta)

/-- Ordinary characters are translated to themselves. -/
theorem translate_ordinary {address : List Char} (h : Ordinary address) :
    translate .outer address = address := by
  induction address with
  | nil => rfl
  | cons c address ih =>
    obtain ⟨hc, haddress⟩ := List.forall_mem_cons.mp h
    have hne : ∀ c' ∈ special, c ≠ c' := fun c' hc' heq => hc (heq ▸ hc')
    have hescape : escape "\\^$.|()[]+?" c = [c] := by
      have hsub : "\\^$.|()[]+?".toList ⊆ special := by decide
      exact if_neg fun hmem => hc (hsub hmem)
    have hchar : translateChar .outer c = ([c], .outer) := by
      rw [translateChar, if_neg (hne '*' (by decide)), if_neg (hne '?' (by decide)),
        if_neg (hne '[' (by decide)), if_neg (hne '\x7b' (by decide)), hescape]
    rw [translate, hchar, ih haddress]
    rfl

/-- The expression of an ordinary address. -/
theorem compile_patternOf {address : String} (h : Ordinary address.toList) :
    Regex.compile (patternOf address) = some (.seq .start
      (Regex.literals address.toList (.seq .finish .eps))) := by
  rw [patternOf, translate_ordinary h]
  exact Regex.compile_literals (notMem_metacharacters h)

/-- The expression of an ordinary address with a star at its end. -/
theorem compile_wildcardOf {addr : String} (h : Ordinary addr.toList) :
    Regex.compile (wildcardOf (addr ++ "*")) = some (Regex.literals addr.toList
      (.seq (.star .any) (.seq .finish .eps))) := by
  have hsame : (addr.toList.flatMap fun c => if c = '*' then ".*?".toList else [c]) =
      addr.toList := by
    have hone : ∀ c ∈ addr.toList, (if c = '*' then ".*?".toList else [c]) = [c] := by
      intro c hc
      rw [if_neg]
      rintro rfl
      exact h _ hc (by decide)
    rw [List.flatMap_congr hone, List.flatMap_singleton']
  have hwildcard : wildcardOf (addr ++ "*") = addr.toList ++ ['.', '*', '?', '$'] := by
    rw [wildcardOf, String.toList_append, List.flatMap_append, hsame, List.append_assoc]
    rfl
  rw [hwildcard]
  exact Regex.compile_prefix (notMem_metacharacters h)

/-- **What handles an ordinary address**: a handler that is registered under a prefix and a star
handles the addresses that begin with the prefix. -/
theorem handlersForAddress_eq {addr address : String} {handler : α} (hplain : Ordinary addr.toList)
    (h : Ordinary address.toList) :
    (register {} (addr ++ "*") handler).handlersForAddress address =
      some (if addr.toList <+: address.toList then [handler] else []) := by
  have hlinefeed : ∀ c ∈ address.toList, c ≠ '\n' := by
    rintro c hc rfl
    exact h _ hc (by decide)
  -- The registered address has a star, and the message's address has none.
  have hother : (Regex.seq .start (Regex.literals address.toList
      (.seq .finish .eps))).matchesFront (addr ++ "*").toList = false := by
    rw [Bool.eq_false_iff, ne_eq, Regex.matchesFront_anchored_iff, String.toList_append]
    have hstar : '*' ∈ addr.toList ++ "*".toList := List.mem_append_right _ (by decide)
    rintro (heq | heq)
    · rw [heq] at hstar
      exact h _ hstar (by decide)
    · have hlast : some '*' = some '\n' := by simpa using congrArg List.getLast? heq
      exact absurd hlast (by decide)
  have hstar : '*' ∈ (addr ++ "*").toList := by
    rw [String.toList_append]
    exact List.mem_append_right _ (by decide)
  rw [handlersForAddress, compile_patternOf h]
  dsimp only
  rw [register]
  change (search _ address [(addr ++ "*", [handler])]).map _ = _
  rw [search, matchesAddress, if_neg (by rw [hother]; exact Bool.false_ne_true), if_pos hstar,
    compile_wildcardOf hplain, search]
  by_cases hprefix : addr.toList <+: address.toList
  · have hmatch := (Regex.matchesFront_prefix_iff hlinefeed).mpr hprefix
    rw [if_pos hprefix]
    simp [hmatch]
  · have hmatch : Regex.matchesFront (Regex.literals addr.toList
        (.seq (.star .any) (.seq .finish .eps))) address.toList = false := by
      rw [Bool.eq_false_iff, ne_eq, Regex.matchesFront_prefix_iff hlinefeed]
      exact hprefix
    rw [if_neg hprefix]
    simp [hmatch]

end Dispatcher

end LooperControl
