import Interaction.Proofs.Flat

/-!
# Trivia between the words does not matter

Behind a blank that is in no text and in no comment, trivia may be put in (`Padded`). Rules that
look no further than a blank read the same from the wider text (`Local.padded`), `trivia` does
because it takes all there is (`padded_trivia`), and so do all rules of the language, since they are
put together from these.
-/

namespace Interaction
open Rule
namespace Source

/-- A text, and the same text with more trivia behind a blank. -/
inductive Padded : List Char → List Char → Prop
  | same (s : List Char) : Padded s s
  | padded {a b t : List Char} {w : Char} (hw : isBlank w = true) (ha : Outside a w)
      (ht : IsTrivia t) : Padded (a ++ w :: b) (a ++ w :: (t ++ b))

variable {α : Type} {p : Rule α}

theorem padded_of_settles (h : ∀ ⦃a w⦄, isBlank w = true → Outside a w → Settles p a w) :
    Steady Padded p := by
  rintro _ _ (s | ⟨hw, ha, ht⟩)
  · exact .refl .same _
  · cases h hw ha with
    | read x a' ha' h =>
      rw [h, h]
      exact .read x (.padded hw ha' ht)
    | refused h =>
      rw [h, h]
      exact .refused
    | failed h =>
      obtain ⟨e, r, hfailed⟩ := h _
      rw [hfailed]
      exact .failed _

theorem Local.padded (hp : Local p) : Steady Padded p :=
  padded_of_settles fun _ _ hw => hp (isStop_of_isBlank hw)

theorem padded_trivia : Steady Padded trivia := by
  rintro _ _ (s | @⟨a, b, t, w, hw, ha, ht⟩)
  · exact .refl .same _
  · rcases trivia_cases (isStop_of_isBlank hw) ha with ⟨a', ha', hread⟩ | hat | hfailed
    · rw [hread, hread]
      exact .read () (.padded hw ha' ht)
    · rw [hat, hat, trivia_cons_blank hw, trivia_cons_blank hw, trivia_append ht]
      exact .refl .same _
    · obtain ⟨e, r, hfailed⟩ := hfailed b
      rw [hfailed]
      exact .failed _

theorem padded_closingBrace : Steady Padded (expectMark '}') := by
  refine padded_of_settles fun a w hw ha => settles_expectMark (by decide) ?_ ha
  rintro rfl
  cases hw

theorem padded_element : Steady Padded element :=
  nested_element.steady (fun hword => hword.isLocal.padded) padded_trivia padded_closingBrace

theorem steady_diagram : Steady Padded diagram := by
  have hspaced : Steady Padded (spaced element) := padded_trivia.bind fun _ => padded_element
  have hend : Steady Padded (spaced (atEnd.orFail .notAnElement)) :=
    padded_trivia.bind fun _ => (Local.padded local_atEnd).orFail _
  exact (hspaced.many consumes_element.spaced).bind fun _ => hend.bind fun _ => steady_pure _

end Source

open Source

namespace Diagram
variable {d : Diagram}

/-- Trivia behind a blank between the words changes nothing. -/
theorem parse_insert_trivia {a t b : String} {w : Char} (hw : isBlank w = true)
    (ha : Outside a.toList w) (ht : IsTrivia t.toList) (h : parse (a ++ w.toString ++ b) = .ok d) :
    parse (a ++ w.toString ++ t ++ b) = .ok d := by
  obtain ⟨r, hread⟩ := parse_eq_ok.1 h
  have hpadded : Padded (a ++ w.toString ++ b).toList (a ++ w.toString ++ t ++ b).toList := by
    simpa using Padded.padded (b := b.toList) hw ha ht
  have hagrees := steady_diagram hpadded
  rw [hread] at hagrees
  generalize hread' : diagram (a ++ w.toString ++ t ++ b).toList = o at hagrees
  cases hagrees with
  | read _ hr => exact parse_eq_ok.2 ⟨_, hread'⟩

/-- The text in quotes is no comment, and the quote in the comment starts no text. -/
theorem parse_insert_trivia_scene : ∃ d,
    parse "scene A \x7b u: \"%\"-> B \x7d" = .ok d ∧
    d.elements.map Element.id = ["A"] ∧
    parse "scene A \x7b u: \"%\"-> /* ' */ % '\r\nB \x7d" = .ok d := by
  have hids : (parse "scene A \x7b u: \"%\"-> B \x7d").toOption.map (·.elements.map Element.id) =
      some ["A"] := by
    decide +kernel
  have hline : OneLine [' ', '\''] := by simp [OneLine, isBreak]
  have htrivia : IsTrivia "/* ' */ % '\r\n".toList :=
    .block (x := " ' ".toList) (by rw [Unclosed]; decide)
      (.blank rfl (.line (m := "%") (.inr rfl) hline (.inr rfl) .nil))
  cases hd : parse "scene A \x7b u: \"%\"-> B \x7d" with
  | error e => rw [hd] at hids; cases hids
  | ok d =>
    rw [hd] at hids
    exact ⟨d, rfl, Option.some.inj hids, parse_insert_trivia (a := "scene A \x7b u: \"%\"->")
      (t := "/* ' */ % '\r\n") (b := "B \x7d") (w := ' ') rfl (by decide) htrivia hd⟩

end Diagram
end Interaction
