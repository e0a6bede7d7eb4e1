import FactGuard.Config.Basic
import FactGuard.Environment

/-!
# Config/Interpolation — variables mentioned in a settings file

A mention `${name}` gives way to the value of the variable, in one pass from left to right: values are not
looked through again. A name runs up to the first closing brace. A variable that is set to bytes that are
no text counts as not set.
-/

namespace FactGuard.Config

/-- The name at the front of a text, and what follows its brace. -/
def mention? : List Char → Option (List Char × List Char)
  | [] => none
  | '\x7d' :: rest => some ([], rest)
  | c :: rest => (mention? rest).map fun (name, rest) => (c :: name, rest)

/-- What follows a mention is shorter than what its name was sought in. -/
theorem length_of_mention? :
    ∀ {text name rest : List Char}, mention? text = some (name, rest) → rest.length < text.length
  | c :: cs, name, rest, h => by
    unfold mention? at h
    split at h
    · simp at *
    · next heq =>
      cases heq
      cases h
      simp
    · next heq =>
      cases heq
      obtain ⟨⟨name', rest'⟩, hm, he⟩ := Option.map_eq_some_iff.mp h
      cases he
      exact Nat.lt_succ_of_lt (length_of_mention? hm)

/-- Puts the values of variables in the places where they are mentioned. -/
def interpolate (environment : Environment) (text : List Char) : Except Error (List Char) :=
  match text with
  | [] => .ok []
  | '$' :: '\x7b' :: rest =>
    match h : mention? rest with
    | none => .error .unclosedMention
    | some (name, rest') =>
      have := length_of_mention? h
      match environment.text? (String.ofList name) with
      | none => .error (.missingVariable (String.ofList name))
      | some value => do return value.toList ++ (← interpolate environment rest')
  | c :: rest => do return c :: (← interpolate environment rest)
termination_by text.length
decreasing_by
  all_goals simp only [List.length_cons] at *
  all_goals omega

/-- The names of the variables that a text mentions, up to a mention that is not closed. -/
def mentionedNames (text : List Char) : List String :=
  match text with
  | [] => []
  | '$' :: '\x7b' :: rest =>
    match h : mention? rest with
    | none => []
    | some (name, rest') =>
      have := length_of_mention? h
      String.ofList name :: mentionedNames rest'
  | _ :: rest => mentionedNames rest
termination_by text.length
decreasing_by
  all_goals simp only [List.length_cons] at *
  all_goals omega

end FactGuard.Config
