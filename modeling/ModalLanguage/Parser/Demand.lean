/-
Module: ModalLanguage.Parser.Demand
Purpose: Parsing on demand. A stream is asked for one token at a time, and it is asked again only
  when the token before could be read. The answers are kept, so that it can be told afterwards how
  far into the text the parse has looked.
Main exports: Demand, Parser.demandFrom, Parser.demand
-/
import ModalLanguage.Parser.Basic

namespace ModalLanguage

/-- The course of a parse on demand: what the stream answered, in order, and how the parse ended. -/
structure Demand where
  answers : List Stream.Answer
  outcome : Except Error Formula

/-- A stream that answers with a token has less text left. -/
theorem Stream.rest_length_lt_of_next {s later : Stream} {token : Token}
    (answered : s.next = (.token token, later)) : later.rest.length < s.rest.length := by
  unfold next at answered
  split at answered
  · rename_i token' rest read
    cases answered
    exact readToken_length_lt read
  · cases answered
  · cases answered

namespace Parser

/-- Ask the stream and read what it answers, from a configuration on, until a token cannot be read
    or there is none. -/
def demandFrom (p : Parser) (c : Configuration) (s : Stream) : Demand :=
  match _answered : s.next with
  | (.token token, later) =>
    match c.step p.limit token with
    | .error failure => ⟨[.token token], .error (p.report s.text (.failure failure))⟩
    | .ok next =>
      let others := p.demandFrom next later
      ⟨.token token :: others.answers, others.outcome⟩
  | (.invalid fault, _) => ⟨[.invalid fault], .error (p.report s.text (.invalid fault))⟩
  | (.finished, _) =>
    ⟨[.finished], (c.finish p.limit).mapError fun failure => p.report s.text (.failure failure)⟩
termination_by s.rest.length
decreasing_by exact Stream.rest_length_lt_of_next _answered

/-- Parse a text on demand. -/
def demand (p : Parser) (text : String) : Demand := p.demandFrom .start (.ofText text)

end Parser

end ModalLanguage
