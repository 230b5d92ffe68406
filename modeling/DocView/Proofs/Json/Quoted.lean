import DocView.Proofs.Json.Text
import Mathlib.Data.List.Chain

/-!
# Quoted texts

Inside a text in quotes a double quote stands behind a backslash. So a brace is never followed by
a double quote, except where the text ends in the brace and the closing quote follows. A JSON
object, on the other hand, starts with just that: its brace, and the quote of its first name.

## Main results

* `Json.not_brace_quote_infix_quoted`
-/

namespace DocView

namespace Text

theorem exists_digitChar_of_mem_toDigitsCore {b fuel n : Nat} {c : Char} {cs : List Char}
    (hcs : ∀ c ∈ cs, ∃ d, c = Nat.digitChar d) (hc : c ∈ Nat.toDigitsCore b fuel n cs) :
    ∃ d, c = Nat.digitChar d := by
  induction fuel generalizing n cs with
  | zero => exact hcs c hc
  | succ fuel ih =>
    have hcons : ∀ c ∈ Nat.digitChar (n % b) :: cs, ∃ d, c = Nat.digitChar d :=
      List.forall_mem_cons.mpr ⟨⟨n % b, rfl⟩, hcs⟩
    rw [Nat.toDigitsCore] at hc
    split at hc
    · exact hcons c hc
    · exact ih hcons hc

/-- Padded hexadecimal has digits only. -/
theorem exists_digitChar_of_mem_paddedHex {width n : Nat} {c : Char} (hc : c ∈ paddedHex width n) :
    ∃ d, c = Nat.digitChar d := by
  rcases List.mem_append.mp hc with hc | hc
  · exact ⟨0, List.eq_of_mem_replicate hc⟩
  · exact exists_digitChar_of_mem_toDigitsCore (fun _ h => absurd h List.not_mem_nil) hc

end Text

namespace Json

/-- That two neighbours are not a brace and a double quote. -/
def NotBraceQuote (a b : Char) : Prop := ¬ (a = '\x7b' ∧ b = '"')

/-! ### The escape of one character -/

/-- A code unit is written with a backslash, an `u` and digits. -/
theorem ne_of_mem_unitEscape {n : Nat} {a c : Char} (ha : a ∈ unitEscape n) (hbackslash : c ≠ '\\')
    (hu : c ≠ 'u') (hdigit : ∀ d, Nat.digitChar d ≠ c) : a ≠ c := by
  rcases List.mem_cons.mp ha with rfl | ha
  · exact hbackslash.symm
  · rcases List.mem_cons.mp ha with rfl | ha
    · exact hu.symm
    · obtain ⟨d, rfl⟩ := Text.exists_digitChar_of_mem_paddedHex ha
      exact hdigit d

theorem exists_unitEscapes_eq_cons (c : Char) :
    ∃ more, (units c).flatMap unitEscape = '\\' :: more ∧ ∀ a ∈ more, ∃ n, a ∈ unitEscape n := by
  obtain ⟨n, ns, hunits⟩ : ∃ n ns, units c = n :: ns := by
    unfold units
    split <;> exact ⟨_, _, rfl⟩
  refine ⟨_, by rw [hunits]; rfl, fun a ha => ?_⟩
  have hmem : a ∈ (n :: ns).flatMap unitEscape := List.mem_cons_of_mem '\\' ha
  obtain ⟨m, -, hm⟩ := List.mem_flatMap.mp hmem
  exact ⟨m, hm⟩

/-- Where a brace and where a double quote can stand in the escape of a character. -/
theorem escapedChar_ne_cases (c : Char) :
    (escapedChar c = [c] ∧ c ≠ '"') ∨
    (∃ letter, escapedChar c = ['\\', letter] ∧ letter ≠ '\x7b') ∨
    (∃ rest, escapedChar c = '\\' :: rest ∧ ∀ a ∈ rest, a ≠ '\x7b' ∧ a ≠ '"') := by
  rcases escapedChar_cases c with ⟨h, -, hquote, -⟩ | ⟨letter, h, hletter⟩ | ⟨h, -⟩
  · exact .inl ⟨h, hquote⟩
  · have hall : ∀ p ∈ letterEscapes, p.2 ≠ '\x7b' := by decide
    exact .inr (.inl ⟨letter, h, hall _ hletter⟩)
  · obtain ⟨rest, hunits, hrest⟩ := exists_unitEscapes_eq_cons c
    refine .inr (.inr ⟨rest, h.trans hunits, fun a ha => ?_⟩)
    obtain ⟨n, hn⟩ := hrest a ha
    exact ⟨ne_of_mem_unitEscape hn (by decide) (by decide) fun _ => Nat.digitChar_ne _ (by decide),
      ne_of_mem_unitEscape hn (by decide) (by decide) fun _ => Nat.digitChar_ne _ (by decide)⟩

/-- The escape of a character starts with no double quote. -/
theorem exists_escapedChar_eq_cons (c : Char) : ∃ a rest, escapedChar c = a :: rest ∧ a ≠ '"' := by
  rcases escapedChar_ne_cases c with ⟨h, hc⟩ | ⟨letter, h, -⟩ | ⟨rest, h, -⟩
  · exact ⟨c, [], h, hc⟩
  · exact ⟨'\\', [letter], h, by decide⟩
  · exact ⟨'\\', rest, h, by decide⟩

/-- The escape of a character that is no brace ends in none. -/
theorem getLast?_escapedChar_ne {c : Char} (hc : c ≠ '\x7b') :
    ∀ a ∈ (escapedChar c).getLast?, a ≠ '\x7b' := by
  intro a ha
  have hmem : a ∈ escapedChar c := List.mem_of_getLast? ha
  rcases escapedChar_ne_cases c with ⟨h, -⟩ | ⟨letter, h, hletter⟩ | ⟨rest, h, hrest⟩ <;>
    rw [h] at ha hmem
  · obtain rfl : c = a := Option.some.inj ha
    exact hc
  · obtain rfl : letter = a := Option.some.inj ha
    exact hletter
  · rcases List.mem_cons.mp hmem with rfl | hmem
    · decide
    · exact (hrest a hmem).1

theorem isChain_escapedChar (c : Char) : List.IsChain NotBraceQuote (escapedChar c) := by
  rcases escapedChar_ne_cases c with ⟨h, -⟩ | ⟨letter, h, -⟩ | ⟨rest, h, hrest⟩ <;> rw [h]
  · exact List.isChain_singleton c
  · exact List.isChain_pair.mpr fun hbrace => absurd hbrace.1 (by decide)
  · have hpairs : rest.Pairwise NotBraceQuote :=
      List.pairwise_of_forall_mem_list fun a ha _ _ hbrace => (hrest a ha).1 hbrace.1
    exact hpairs.isChain.cons fun _ _ hbrace => absurd hbrace.1 (by decide)

/-! ### Texts -/

theorem isChain_escaped {cs : List Char} (hlast : cs.getLast? ≠ some '\x7b') :
    List.IsChain NotBraceQuote (cs.flatMap escapedChar ++ ['"']) := by
  induction cs with
  | nil => exact List.isChain_singleton '"'
  | cons c rest ih =>
    rw [List.flatMap_cons, List.append_assoc]
    cases rest with
    | nil =>
      have hc : c ≠ '\x7b' := fun h => hlast (by rw [h]; rfl)
      refine (isChain_escapedChar c).append (List.isChain_singleton '"') fun a ha b _ hbrace => ?_
      exact getLast?_escapedChar_ne hc a ha hbrace.1
    | cons d more =>
      rw [List.getLast?_cons_cons] at hlast
      refine (isChain_escapedChar c).append (ih hlast) fun a _ b hb hbrace => ?_
      obtain ⟨first, others, hescape, hfirst⟩ := exists_escapedChar_eq_cons d
      rw [List.flatMap_cons, hescape] at hb
      obtain rfl : first = b := Option.some.inj hb
      exact hfirst hbrace.2

/-- **No brace is followed by a double quote inside a quoted text** that does not end in one. -/
theorem not_brace_quote_infix_quoted {s : String} (hlast : s.toList.getLast? ≠ some '\x7b') :
    ¬ ['\x7b', '"'] <:+: (quoted s).toList := by
  intro hbrace
  have hchain : List.IsChain NotBraceQuote (quoted s).toList := by
    rw [quoted, String.toList_ofList]
    exact (isChain_escaped hlast).cons fun _ _ hpair => absurd hpair.1 (by decide)
  have hpair : List.IsChain NotBraceQuote ['\x7b', '"'] := List.IsChain.infix hchain hbrace
  exact List.isChain_pair.mp hpair ⟨rfl, rfl⟩

end Json

end DocView
