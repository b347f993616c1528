import Inquiry.Token.Lookahead

set_option autoImplicit false

namespace Inquiry

namespace Lookahead

def holding (ahead : List Token) (count : Nat) : Lookahead := ⟨ahead.take count, ahead.drop count⟩

section Holding

variable (ahead : List Token) (count : Nat)

theorem holding_nil : holding [] count = ⟨[], []⟩ := by simp [holding]

@[simp] theorem bufferedCount_holding :
    (holding ahead count).bufferedCount = min count ahead.length :=
  List.length_take

theorem buffer_append_source :
    (holding ahead count).buffer ++ (holding ahead count).source = ahead :=
  List.take_append_drop count ahead

theorem fill_holding (wanted : Nat) :
    (holding ahead count).fill wanted = holding ahead (max count wanted) := by
  by_cases within : count ≤ ahead.length
  · have held : (ahead.take count).length = count := List.length_take_of_le within
    have total : count + (wanted - count) = max count wanted := by omega
    simp only [fill, holding, held, List.drop_drop, ← List.take_add, total]
  · -- The source is empty already.
    have all : ahead.length ≤ count := by omega
    have alsoAll : ahead.length ≤ max count wanted := by omega
    simp [fill, holding, List.take_of_length_le, List.drop_eq_nil_of_le, all, alsoAll]

theorem peekNth_holding (n : Nat) :
    (holding ahead count).peekNth n = (ahead[n]?, holding ahead (max count (n + 1))) := by
  have near : n < max count (n + 1) := by omega
  rw [peekNth, fill_holding, holding]
  simp only [List.getElem?_take_of_lt near]

theorem consume_holding :
    (holding ahead count).consume = (ahead.head?, holding ahead.tail (max count 1 - 1)) := by
  obtain ⟨more, reached⟩ : ∃ more, max count 1 = more + 1 := ⟨max count 1 - 1, by omega⟩
  rw [consume, fill_holding, reached]
  cases ahead <;> simp [holding]

end Holding

inductive Step where
  | peek
  | peekNth (n : Nat)
  | peekIs (test : TokenKind → Bool)
  | isAtEnd
  | consume

def Step.depth : Step → Nat
  | peekNth n => n + 1
  | peek | peekIs _ | isAtEnd | consume => 1

inductive Answer where
  | token (token? : Option Token)
  | flag (holds : Bool)

def step (stream : Lookahead) : Step → Answer × Lookahead
  | .peek => (.token stream.peek.1, stream.peek.2)
  | .peekNth n => (.token (stream.peekNth n).1, (stream.peekNth n).2)
  | .peekIs test => (.flag (stream.peekIs test).1, (stream.peekIs test).2)
  | .isAtEnd => (.flag stream.isAtEnd.1, stream.isAtEnd.2)
  | .consume => (.token stream.consume.1, stream.consume.2)

def run (stream : Lookahead) : List Step → List (Answer × Nat) × Lookahead
  | [] => ([], stream)
  | step :: rest =>
    let (answer, next) := stream.step step
    let (later, last) := next.run rest
    ((answer, next.bufferedCount) :: later, last)

def consumed : List Step → List (Answer × Nat) → List Token
  | .consume :: steps, (.token (some token), _) :: answers => token :: consumed steps answers
  | _ :: steps, _ :: answers => consumed steps answers
  | _, _ => []

end Lookahead

/-- A place in a list of tokens. The horizon is the place before which all tokens were looked at. -/
structure Cursor where
  place : Nat
  horizon : Nat

namespace Cursor

open Lookahead (Step Answer)

variable (tokens : List Token)

def start : Cursor := ⟨0, 0⟩

def answer (cursor : Cursor) : Step → Answer
  | .peek | .consume => .token tokens[cursor.place]?
  | .peekNth n => .token tokens[cursor.place + n]?
  | .peekIs test =>
    .flag (match tokens[cursor.place]? with
      | some token => test token.kind
      | none => false)
  | .isAtEnd =>
    .flag (match tokens[cursor.place]? with
      | some token => token.kind.isEnd
      | none => true)

def next (cursor : Cursor) (step : Step) : Cursor where
  place := match step with
    | .consume => if cursor.place < tokens.length then cursor.place + 1 else cursor.place
    | _ => cursor.place
  horizon := max cursor.horizon (cursor.place + step.depth)

def after (cursor : Cursor) (steps : List Step) : Cursor := steps.foldl (next tokens) cursor

def heldCount (cursor : Cursor) : Nat :=
  min (tokens.length - cursor.place) (cursor.horizon - cursor.place)

def answers (cursor : Cursor) : List Step → List (Answer × Nat)
  | [] => []
  | step :: rest =>
    (cursor.answer tokens step, (cursor.next tokens step).heldCount tokens) ::
      (cursor.next tokens step).answers rest

-- Of the tokens from the place on, the reader has taken those up to the horizon.
def reader (cursor : Cursor) : Lookahead :=
  .holding (tokens.drop cursor.place) (cursor.horizon - cursor.place)

theorem reader_start : start.reader tokens = .ofTokens tokens := rfl

theorem bufferedCount_reader (cursor : Cursor) :
    (cursor.reader tokens).bufferedCount = cursor.heldCount tokens := by
  rw [reader, Lookahead.bufferedCount_holding, List.length_drop, heldCount, Nat.min_comm]

theorem peekNth_reader (cursor : Cursor) (n : Nat) :
    (cursor.reader tokens).peekNth n =
      (tokens[cursor.place + n]?, (cursor.next tokens (.peekNth n)).reader tokens) := by
  have reach : max (cursor.horizon - cursor.place) (n + 1) =
      max cursor.horizon (cursor.place + (n + 1)) - cursor.place := by omega
  rw [reader, Lookahead.peekNth_holding, List.getElem?_drop, reach]
  rfl

theorem peek_reader (cursor : Cursor) :
    (cursor.reader tokens).peek =
      (tokens[cursor.place]?, (cursor.next tokens .peek).reader tokens) :=
  cursor.peekNth_reader tokens 0

theorem consume_reader (cursor : Cursor) :
    (cursor.reader tokens).consume =
      (tokens[cursor.place]?, (cursor.next tokens .consume).reader tokens) := by
  rw [reader, Lookahead.consume_holding, List.head?_drop, List.tail_drop]
  by_cases inside : cursor.place < tokens.length
  · have reach : max (cursor.horizon - cursor.place) 1 - 1 =
        max cursor.horizon (cursor.place + 1) - (cursor.place + 1) := by omega
    simp only [reader, next, inside, if_true, Lookahead.Step.depth, reach]
  · have none : tokens.drop cursor.place = [] := List.drop_eq_nil_of_le (by omega)
    have alsoNone : tokens.drop (cursor.place + 1) = [] := List.drop_eq_nil_of_le (by omega)
    simp only [reader, next, inside, if_false, none, alsoNone, Lookahead.holding_nil]

theorem step_reader (cursor : Cursor) (step : Step) :
    (cursor.reader tokens).step step =
      (cursor.answer tokens step, (cursor.next tokens step).reader tokens) := by
  cases step with
  | peek => rw [Lookahead.step, peek_reader]; rfl
  | peekNth n => rw [Lookahead.step, peekNth_reader]; rfl
  | consume => rw [Lookahead.step, consume_reader]; rfl
  | peekIs test =>
    rw [Lookahead.step, Lookahead.peekIs, peek_reader]
    cases found : tokens[cursor.place]? <;> simp [answer, found] <;> rfl
  | isAtEnd =>
    rw [Lookahead.step, Lookahead.isAtEnd, peek_reader]
    cases found : tokens[cursor.place]? <;> simp [answer, found] <;> rfl

theorem run_reader (cursor : Cursor) (steps : List Step) :
    (cursor.reader tokens).run steps =
      (cursor.answers tokens steps, (cursor.after tokens steps).reader tokens) := by
  induction steps generalizing cursor with
  | nil => rfl
  | cons step rest ih =>
    simp only [Lookahead.run, step_reader, ih, bufferedCount_reader]
    rfl

theorem place_next_le {cursor : Cursor} (inside : cursor.place ≤ tokens.length) (step : Step) :
    (cursor.next tokens step).place ≤ tokens.length := by
  cases step with
  | peek | peekNth _ | peekIs _ | isAtEnd => exact inside
  | consume =>
    simp only [next]
    split <;> omega

theorem place_after_le {cursor : Cursor} (inside : cursor.place ≤ tokens.length)
    (steps : List Step) : (cursor.after tokens steps).place ≤ tokens.length := by
  induction steps generalizing cursor with
  | nil => exact inside
  | cons step rest ih => exact ih (cursor.place_next_le tokens inside step)

def taken? (cursor : Cursor) : Step → Option Token
  | .consume => tokens[cursor.place]?
  | .peek | .peekNth _ | .peekIs _ | .isAtEnd => none

theorem take_append_taken (cursor : Cursor) (step : Step) :
    tokens.take cursor.place ++ (cursor.taken? tokens step).toList =
      tokens.take (cursor.next tokens step).place := by
  cases step with
  | peek | peekNth _ | peekIs _ | isAtEnd => exact List.append_nil _
  | consume =>
    rw [taken?, ← List.take_add_one, next]
    by_cases inside : cursor.place < tokens.length
    · simp only [inside, if_true]
    · have all : tokens.length ≤ cursor.place := by omega
      simp only [inside, if_false, List.take_of_length_le, all, Nat.le_succ_of_le all]

theorem consumed_cons (cursor : Cursor) (step : Step) (steps : List Step) (held : Nat)
    (later : List (Answer × Nat)) :
    Lookahead.consumed (step :: steps) ((cursor.answer tokens step, held) :: later) =
      (cursor.taken? tokens step).toList ++ Lookahead.consumed steps later := by
  cases step with
  | peek | peekNth _ | peekIs _ | isAtEnd => rfl
  | consume =>
    rw [answer, taken?]
    cases tokens[cursor.place]? <;> rfl

theorem take_append_consumed (cursor : Cursor) (steps : List Step) :
    tokens.take cursor.place ++ Lookahead.consumed steps (cursor.answers tokens steps) =
      tokens.take (cursor.after tokens steps).place := by
  induction steps generalizing cursor with
  | nil => exact List.append_nil _
  | cons step rest ih =>
    rw [answers, consumed_cons, ← List.append_assoc, take_append_taken, ih]
    rfl

end Cursor

/-- Whatever a reader was asked, it answers as a cursor into the list of its tokens does. In its
buffer wait the tokens up to the furthest that was looked at. -/
theorem Lookahead.run_follows_cursor (tokens : List Token) (steps : List Step) :
    let ran := (ofTokens tokens).run steps
    let cursor := Cursor.start.after tokens steps
    ran.1 = Cursor.start.answers tokens steps
    ∧ cursor.place = (consumed steps ran.1).length
    ∧ consumed steps ran.1 ++ ran.2.buffer ++ ran.2.source = tokens
    ∧ ran.2.bufferedCount = cursor.heldCount tokens := by
  intro ran cursor
  have followed : ran = (Cursor.start.answers tokens steps, cursor.reader tokens) := by
    have started := Cursor.start.run_reader tokens steps
    rwa [Cursor.reader_start] at started
  have given : consumed steps (Cursor.start.answers tokens steps) = tokens.take cursor.place :=
    Cursor.start.take_append_consumed tokens steps
  have inside : cursor.place ≤ tokens.length :=
    Cursor.start.place_after_le tokens (Nat.zero_le _) steps
  rw [followed, given]
  refine ⟨rfl, ?_, ?_, cursor.bufferedCount_reader tokens⟩
  · rw [List.length_take_of_le inside]
  · rw [List.append_assoc, Cursor.reader, buffer_append_source, List.take_append_drop]

example (first second third : Token) :
    ((Lookahead.ofTokens [first, second, third]).run
      [.peekNth 1, .consume, .peekNth 9, .consume]).1.map Prod.snd = [2, 1, 2, 1] := rfl

end Inquiry
