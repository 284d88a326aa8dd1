import MessageQueue.Proofs.Answer.Reading

/-!
# Answers that are cut off

An answer may end too early, inside a tag, a text or a reference, and elements may be left open.  It
is read then as far as it goes, and the end makes a token of what is there: a text that may have
been longer, a start tag with a name that may have been longer, or an end tag.  Neither a text nor a
start tag ends a message.  An end tag does, but it has to fit the element that is open, and in the
whole answer there is an end tag at this place which has to fit the same element
(`Reading.step_closing`).  So the messages of an answer that is cut off are the first ones of the
whole answer, and none of them is another one than there.
-/

namespace MessageQueue.Answer

open MessageQueue.Markup

namespace Reading

/-- A message ends only where an element ends. -/
theorem done_of_step {r s : Reading} {token : Token} (taken : r.step token = .ok s)
    (inside : ∀ name, token ≠ .closing name) : s.inbox.done = r.inbox.done := by
  obtain ⟨node, read, next⟩ := step_inv taken
  rcases Inbox.done_of_step next with kept | ⟨path, d, m, rfl, -, -⟩
  · exact kept
  · obtain ⟨name, closing⟩ := nodeOf_eq_closed read
    exact absurd closing (inside name)

/-- End tags that fit the open element do the same, however they are written. -/
theorem step_closing {r s t : Reading} {first second : List Char}
    (taken : r.step (.closing first) = .ok s)
    (takenToo : r.step (.closing second) = .ok t) : s = t := by
  obtain ⟨node, read, next⟩ := step_inv taken
  obtain ⟨other, readToo, nextToo⟩ := step_inv takenToo
  obtain ⟨rfl, path⟩ := Prod.mk.inj (nodeOf_closing read readToo)
  rw [next] at nextToo
  obtain ⟨path', inbox⟩ := s
  obtain ⟨path'', inbox'⟩ := t
  rw [Reading.mk.injEq]
  exact ⟨path, Except.ok.inj nextToo⟩

end Reading

/-- The token that the end of a document completes: none, one that begins something, or an end
tag. -/
theorem finish_cases (mode : Mode) :
    (finish mode).1 = none ∨
      (∃ token, (finish mode).1 = some token ∧ ∀ name, token ≠ .closing name) ∨
      ∃ done, mode = .endTag done := by
  cases mode with
  | text done =>
    rw [finish]
    split
    next => exact .inl rfl
    next => exact .inr (.inl ⟨_, rfl, fun _ same => by cases same⟩)
  | tag quote done =>
    rw [finish]
    unfold tagToken
    split
    next => exact .inl rfl
    next => exact .inr (.inl ⟨_, rfl, fun _ same => by cases same⟩)
  | endTag done => exact .inr (.inr ⟨done, rfl⟩)
  | instruction done =>
    rw [finish]
    split <;> exact .inl rfl
  | _ => exact .inl rfl

/-- What the end of a cut answer completes ends no message that is not ended in the whole answer as
well. -/
theorem done_of_finish {mode : Mode} {rest : List Char} {r s t : Reading}
    (cut : r.run (finish mode).1.toList = .ok s) (whole : r.run (tokensFrom mode rest) = .ok t) :
    s.inbox.done <:+ t.inbox.done := by
  rcases finish_cases mode with nothing | ⟨token, completed, inside⟩ | ⟨done, rfl⟩
  · rw [nothing] at cut
    cases cut
    exact Reading.done_suffix whole
  · rw [completed] at cut
    obtain ⟨s, taken, last⟩ := Reading.run_cons_inv cut
    cases last
    rw [Reading.done_of_step taken inside]
    exact Reading.done_suffix whole
  · obtain ⟨name, more, tokens⟩ := pass_endTag done rest
    rw [tokens] at whole
    obtain ⟨s', taken, last⟩ := Reading.run_cons_inv cut
    obtain ⟨t', takenToo, behind⟩ := Reading.run_cons_inv whole
    cases last
    rw [Reading.step_closing taken takenToo]
    exact Reading.done_suffix behind

/-- If an answer and what is left of it when it is cut off are both read, then the messages of the
latter are the first ones of the former. -/
theorem received_of_cut {whole cut : String} {all first : List ReceivedMessage}
    (front : cut.toList <+: whole.toList)
    (read : received whole = .ok all) (readCut : received cut = .ok first) : first <+: all := by
  obtain ⟨-, t, taken, rfl⟩ := received_eq_ok_iff.mp read
  obtain ⟨-, s, takenCut, rfl⟩ := received_eq_ok_iff.mp readCut
  obtain ⟨rest, spelled⟩ := front
  rw [tokens_eq] at taken takenCut
  obtain ⟨behind, unmarked⟩ :
    ∃ behind, withoutMark whole.toList = withoutMark cut.toList ++ behind := by
    by_cases empty : cut.toList = []
    · exact ⟨withoutMark whole.toList, by rw [empty]; rfl⟩
    · exact ⟨rest, by rw [← spelled, withoutMark_append empty]⟩
  rw [unmarked, tokensFrom_append] at taken
  rw [tokensFrom] at takenCut
  -- Both have the tokens that are completed in front of the cut.
  obtain ⟨r, before, taken⟩ := Reading.run_append_inv taken
  obtain ⟨r', before', takenCut⟩ := Reading.run_append_inv takenCut
  obtain rfl : r = r' := Except.ok.inj (before.symm.trans before')
  exact List.reverse_prefix.mpr (done_of_finish takenCut taken)

/-- A message with nothing but a handle. -/
def handleOnly (handle : String) (filled : handle ≠ "") : ReceivedMessage :=
  ⟨none, ⟨handle, filled⟩, [], .empty, .empty⟩

/-- An answer that is cut off in the end tag of its first message. -/
def openAnswer : String :=
  "<ReceiveMessageResponse><ReceiveMessageResult><Message><ReceiptHandle>a</ReceiptHandle></Message"

/-- The same answer with what was to follow in the tag, and with another message. -/
def longerAnswer : String :=
  openAnswer ++ " ><Message><ReceiptHandle>b</ReceiptHandle></Message></ReceiveMessageResult>"

theorem received_of_openAnswer :
    openAnswer.toList <+: longerAnswer.toList ∧
      received longerAnswer = .ok [handleOnly "a" (by decide), handleOnly "b" (by decide)] ∧
      received openAnswer = .ok [handleOnly "a" (by decide)] ∧
      [handleOnly "a" (by decide)] <+:
        [handleOnly "a" (by decide), handleOnly "b" (by decide)] := by
  have front : openAnswer.toList <+: longerAnswer.toList := by
    rw [longerAnswer, String.toList_append]
    exact List.prefix_append _ _
  have longer : received longerAnswer =
      .ok [handleOnly "a" (by decide), handleOnly "b" (by decide)] := by
    decide +kernel
  have cut : received openAnswer = .ok [handleOnly "a" (by decide)] := by decide +kernel
  exact ⟨front, longer, cut, received_of_cut front longer cut⟩

end MessageQueue.Answer
