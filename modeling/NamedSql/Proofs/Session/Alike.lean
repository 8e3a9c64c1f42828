import NamedSql.Proofs.Backend.Uniform
import NamedSql.Proofs.Session.Keeping

/-!
Two sessions side by side. Both have gone on from one and the same session, the
first outside transactions and the second inside one, and the backend is
uniform. Two actions are alike if, run on such a pair, they come to values and
trails that fit together. The rules take both actions apart at once; where only
one of them asks the backend something, that is a statement being prepared or
closed.
-/

namespace NamedSql.Session

open Backend

variable {σ α β γ δ : Type}

/-- Both sessions have gone on from the start, by one trail each. -/
structure Abreast (backend : Backend σ) (start : Session σ)
    (plain within : Session σ) (outside inside : List Event) : Prop where
  outside : Extends backend start outside plain
  inside : Extends backend start inside within
  direct : plain.scope = .direct
  held : ∃ held, within.scope = .transaction held ∧
    ∀ statement ∈ held, statement.inTransaction = true

/-- Run side by side after trails that meet the condition, the actions come to
values and trails that fit. -/
def Alike (backend : Backend σ) (start : Session σ)
    (condition : List Event → List Event → Prop) (left : Action σ α)
    (right : Action σ β) (fits : α → β → List Event → List Event → Prop) :
    Prop :=
  ∀ plain within outside inside,
    Abreast backend start plain within outside inside →
    condition outside inside → ∃ outside' inside',
      Abreast backend start (left.run plain).2 (right.run within).2 outside'
        inside' ∧
      fits (left.run plain).1 (right.run within).1 outside' inside'

/-- Both trails submit the same. -/
def Same (outside inside : List Event) : Prop :=
  submissions outside = submissions inside

/-- The values are related, and both trails submit the same. -/
def Both (related : α → β → Prop) (left : α) (right : β)
    (outside inside : List Event) : Prop :=
  related left right ∧ Same outside inside

/-- Both fail with one error, having submitted the same, or both succeed with
what fits. -/
inductive Either {ε : Type} (fits : α → β → List Event → List Event → Prop) :
    Except ε α → Except ε β → List Event → List Event → Prop where
  | failed {e : ε} {outside inside : List Event} (same : Same outside inside) :
      Either fits (.error e) (.error e) outside inside
  | succeeded {left : α} {right : β} {outside inside : List Event}
      (fitting : fits left right outside inside) :
      Either fits (.ok left) (.ok right) outside inside

namespace Alike

variable {backend : Backend σ} {start : Session σ}
  {condition : List Event → List Event → Prop}
  {fits : α → β → List Event → List Event → Prop}

theorem pure {left : α} {right : β}
    (h : ∀ outside inside, condition outside inside →
      fits left right outside inside) :
    Alike backend start condition (Pure.pure left : Action σ α)
      (Pure.pure right : Action σ β) fits :=
  fun _ _ outside inside habreast hcondition =>
    ⟨outside, inside, habreast, h outside inside hcondition⟩

/-- Both come to one value and ask nothing. -/
theorem same (value : α) :
    Alike backend start Same (Pure.pure value : Action σ α)
      (Pure.pure value : Action σ α) (Both Eq) :=
  pure fun _ _ hsame => ⟨rfl, hsame⟩

/-- What follows may count on values that go together for some trails. -/
theorem bind {left : Action σ γ} {right : Action σ δ} {after : γ → Action σ α}
    {behind : δ → Action σ β} {middle : γ → δ → List Event → List Event → Prop}
    (hfirst : Alike backend start condition left right middle)
    (hnext : ∀ value other,
      (∃ outside inside, middle value other outside inside) →
      Alike backend start (middle value other) (after value)
      (behind other) fits) :
    Alike backend start condition (left >>= after) (right >>= behind) fits := by
  intro plain within outside inside habreast hcondition
  obtain ⟨outside, inside, habreast, hmiddle⟩ :=
    hfirst plain within outside inside habreast hcondition
  exact hnext _ _ ⟨outside, inside, hmiddle⟩ _ _ outside inside habreast hmiddle

theorem bind_both {left : Action σ γ} {right : Action σ δ}
    {after : γ → Action σ α} {behind : δ → Action σ β} {related : γ → δ → Prop}
    (hfirst : Alike backend start condition left right (Both related))
    (hnext : ∀ value other, related value other →
      Alike backend start Same (after value) (behind other) fits) :
    Alike backend start condition (left >>= after) (right >>= behind) fits := by
  apply hfirst.bind
  rintro value other ⟨_, _, hrelated, -⟩ plain within outside inside
    habreast hboth
  exact hnext value other hrelated plain within outside inside habreast hboth.2

theorem bind_either {ε : Type} {left : Action σ (Except ε γ)}
    {right : Action σ (Except ε δ)} {after : Except ε γ → Action σ α}
    {behind : Except ε δ → Action σ β}
    {middle : γ → δ → List Event → List Event → Prop}
    (hfirst : Alike backend start condition left right (Either middle))
    (hfailed : ∀ e,
      Alike backend start Same (after (.error e)) (behind (.error e)) fits)
    (hnext : ∀ value other,
      (∃ outside inside, middle value other outside inside) →
      Alike backend start (middle value other) (after (.ok value))
      (behind (.ok other)) fits) :
    Alike backend start condition (left >>= after) (right >>= behind) fits := by
  apply hfirst.bind
  rintro _ _ ⟨outside, inside, heither⟩
  cases heither with
  | @failed e =>
      rintro plain within outside inside habreast ⟨hsame⟩
      exact hfailed e plain within outside inside habreast hsame
  | succeeded hmiddle =>
      intro plain within later behind habreast heither
      cases heither with
      | succeeded hlater =>
          exact hnext _ _ ⟨outside, inside, hmiddle⟩ plain within later behind
            habreast hlater

theorem silent {left : Action σ α} {right : Action σ β} (hleft : Silent left)
    (hright : Silent right) :
    Alike backend start condition left right fun _ _ => condition := by
  intro plain within outside inside habreast hcondition
  obtain ⟨held, hheld, hmarked⟩ := habreast.held
  have hplain := habreast.outside.trans
    (.of_silent (hleft.events plain) (hleft.database plain))
  have hwithin := habreast.inside.trans
    (.of_silent (hright.events within) (hright.database within))
  rw [List.append_nil] at hplain hwithin
  exact ⟨outside, inside,
    ⟨hplain, hwithin, (hleft.scope plain).trans habreast.direct, held,
      (hright.scope within).trans hheld, hmarked⟩, hcondition⟩

theorem bind_silent {left : Action σ γ} {right : Action σ δ}
    {after : γ → Action σ α} {behind : δ → Action σ β} (hleft : Silent left)
    (hright : Silent right)
    (hnext : ∀ value other,
      Alike backend start condition (after value) (behind other) fits) :
    Alike backend start condition (left >>= after) (right >>= behind) fits :=
  (silent hleft hright).bind fun value other _ => hnext value other

theorem bind_aside {left : Action σ γ} {right : Action σ δ}
    {after : γ → Action σ α} {behind : δ → Action σ β} (hleft : Aside left)
    (hright : Aside right)
    (hnext : ∀ value other,
      Alike backend start condition (after value) (behind other) fits) :
    Alike backend start condition (left >>= after) (right >>= behind) fits :=
  bind_silent hleft.toSilent hright.toSilent hnext

theorem of_condition {left : Action σ α} {right : Action σ β}
    {weaker : List Event → List Event → Prop}
    (h : Alike backend start weaker left right fits)
    (himp : ∀ outside inside, condition outside inside →
      weaker outside inside) :
    Alike backend start condition left right fits :=
  fun plain within outside inside habreast hcondition =>
    h plain within outside inside habreast (himp outside inside hcondition)

theorem mono {left : Action σ α} {right : Action σ β}
    {looser : α → β → List Event → List Event → Prop}
    (h : Alike backend start condition left right fits)
    (himp : ∀ value other outside inside, fits value other outside inside →
      looser value other outside inside) :
    Alike backend start condition left right looser := by
  intro plain within outside inside habreast hcondition
  obtain ⟨outside, inside, habreast, hfits⟩ :=
    h plain within outside inside habreast hcondition
  exact ⟨outside, inside, habreast, himp _ _ outside inside hfits⟩

end Alike

variable {backend : Backend σ} {start : Session σ} {behaviour : Behaviour}
  {condition : List Event → List Event → Prop}

theorem Extends.answeredBy {session after : Session σ} {trail : List Event}
    {event : Event} (huniform : backend.Uniform behaviour start.database)
    (h : Extends backend start trail session)
    (hasked : Extends backend session [event] after) :
    event.AnsweredBy behaviour trail :=
  huniform trail event after.database (h.trans hasked).answers

theorem ask_extends (backend : Backend σ) (call : Call) (session : Session σ) :
    Extends backend session [⟨call, ((ask backend call).run session).1⟩]
      ((ask backend call).run session).2 :=
  ⟨rfl, .cons rfl (.nil _)⟩

/-- Both ask, and the answers are those of the behaviour. -/
theorem Alike.ask (huniform : backend.Uniform behaviour start.database)
    {left right : Call}
    {fits : Except DriverError left.Reply → Except DriverError right.Reply →
      List Event → List Event → Prop}
    (h : ∀ outside inside, condition outside inside → ∀ answer reply,
      Event.AnsweredBy behaviour outside ⟨left, answer⟩ →
      Event.AnsweredBy behaviour inside ⟨right, reply⟩ →
      fits answer reply (outside ++ [⟨left, answer⟩])
      (inside ++ [⟨right, reply⟩])) :
    Alike backend start condition (ask backend left) (ask backend right)
      fits := by
  intro plain within outside inside habreast hcondition
  have hleft := ask_extends backend left plain
  have hright := ask_extends backend right within
  exact ⟨_, _,
    ⟨habreast.outside.trans hleft, habreast.inside.trans hright,
      habreast.direct, habreast.held⟩,
    h outside inside hcondition _ _ (habreast.outside.answeredBy huniform hleft)
      (habreast.inside.answeredBy huniform hright)⟩

/-- Only the first asks. -/
theorem Alike.ask_outside (huniform : backend.Uniform behaviour start.database)
    {call : Call} {value : β}
    {fits : Except DriverError call.Reply → β → List Event → List Event → Prop}
    (h : ∀ outside inside, condition outside inside → ∀ answer,
      Event.AnsweredBy behaviour outside ⟨call, answer⟩ →
      fits answer value (outside ++ [⟨call, answer⟩]) inside) :
    Alike backend start condition (Session.ask backend call)
      (Pure.pure value : Action σ β) fits := by
  intro plain within outside inside habreast hcondition
  have hasked := ask_extends backend call plain
  exact ⟨_, inside,
    ⟨habreast.outside.trans hasked, habreast.inside, habreast.direct,
      habreast.held⟩,
    h outside inside hcondition _ (habreast.outside.answeredBy huniform hasked)⟩

theorem Same.executed {outside inside : List Event} (h : Same outside inside) :
    executed outside = executed inside := by
  rw [Backend.executed, h, Backend.executed]

/-- Each trail has gone on by one event, and both submit the same by it. -/
theorem Same.concat {outside inside : List Event} (h : Same outside inside)
    {left right : Event}
    (hsubmitted : left.call.submission? = right.call.submission?) :
    Same (outside ++ [left]) (inside ++ [right]) := by
  rw [Same, submissions_concat, submissions_concat, h, hsubmitted]

theorem Same.concat_outside {outside inside : List Event}
    (h : Same outside inside) {event : Event}
    (hsilent : event.call.submission? = none) :
    Same (outside ++ [event]) inside := by
  rw [Same, submissions_concat, hsilent, h]
  exact List.append_nil _

theorem Same.concat_inside {outside inside : List Event}
    (h : Same outside inside) {event : Event}
    (hsilent : event.call.submission? = none) :
    Same outside (inside ++ [event]) := by
  rw [Same, submissions_concat, hsilent, h]
  exact (List.append_nil _).symm

/-- The statement that one session prepares for itself and the one that a
transaction holds. -/
structure Twins (left right : Prepared) : Prop where
  sql : left.sql = right.sql
  own : left.inTransaction = false
  shared : right.inTransaction = true

/-- Both sessions come to a statement with the text. -/
inductive Lends (sql : String) :
    Except DriverError Prepared → Except DriverError Prepared → Prop where
  | twins {own shared : Prepared} (text : own.sql = sql)
      (twins : Twins own shared) :
      Lends sql (.ok own) (.ok shared)

/-- A preparing that is not kept yet adds an event that submits nothing. -/
theorem prepareNew_succeeds
    (huniform : backend.Uniform behaviour start.database) {before : Session σ}
    {trail : List Event} (h : Extends backend start trail before)
    (marked : Bool) (sql : String) :
    ∃ statement after, (prepareNew backend marked sql).run before =
      (.ok statement, after) ∧
      statement.sql = sql ∧ statement.inTransaction = marked ∧
      after.scope = before.scope ∧
      Extends backend start (trail ++ [⟨.prepare statement, .ok ()⟩])
        after := by
  obtain ⟨answer, hasked, -, hscope, hvalue⟩ :=
    prepareNew_asks backend marked sql before
  obtain rfl : answer = .ok () := h.answeredBy huniform hasked
  exact ⟨_, _, Prod.ext hvalue rfl, rfl, rfl, hscope, h.trans hasked⟩

theorem prepare_alike (huniform : backend.Uniform behaviour start.database)
    (sql : String) :
    Alike backend start Same (prepare backend sql) (prepare backend sql)
      (Both (Lends sql)) := by
  intro plain within outside inside habreast hsame
  obtain ⟨held, hheld, hmarked⟩ := habreast.held
  obtain ⟨own, plain', hown, rfl, hmark, hdirect, houtside⟩ :=
    prepareNew_succeeds huniform habreast.outside false sql
  -- outside a statement is prepared in any case; the transaction may hold one
  -- already
  have hsame : Same (outside ++ [⟨.prepare own, .ok ()⟩]) inside :=
    hsame.concat_outside rfl
  rw [prepare_run, habreast.direct, prepare_run, hheld]
  simp only [hown]
  cases hfind : held.find? (·.sql == own.sql) with
  | some shared =>
      have hsql : shared.sql = own.sql := by simpa using List.find?_some hfind
      have hshared := hmarked shared (List.mem_of_find?_eq_some hfind)
      exact ⟨_, inside,
        ⟨houtside, habreast.inside, hdirect.trans habreast.direct, held, hheld,
          hmarked⟩, .twins rfl ⟨hsql.symm, hmark, hshared⟩, hsame⟩
  | none =>
      obtain ⟨shared, within', hprepared, hsql, hshared, -, hinside⟩ :=
        prepareNew_succeeds huniform habreast.inside true own.sql
      simp only [hprepared]
      refine ⟨_, _,
        ⟨houtside, ⟨hinside.events, hinside.answers⟩,
          hdirect.trans habreast.direct, held ++ [shared], rfl, ?_⟩,
          .twins rfl ⟨hsql.symm, hmark, hshared⟩,
        hsame.concat_inside rfl⟩
      intro statement hmem
      rcases List.mem_append.mp hmem with hmem | hmem
      · exact hmarked statement hmem
      · rw [List.mem_singleton.mp hmem, hshared]

theorem release_alike (huniform : backend.Uniform behaviour start.database)
    {own shared : Prepared} (htwins : Twins own shared) :
    Alike backend start Same (release backend own) (release backend shared)
      (Both Eq) := by
  rw [release, htwins.own, release, htwins.shared]
  apply Alike.ask_outside huniform
  intro outside inside hsame answer hanswer
  exact ⟨hanswer, hsame.concat_outside rfl⟩

theorem releaseOrWarn_alike
    (huniform : backend.Uniform behaviour start.database)
    {own shared : Prepared} (htwins : Twins own shared) (warning : String) :
    Alike backend start Same (releaseOrWarn backend own warning)
      (releaseOrWarn backend shared warning) (Both Eq) := by
  apply (release_alike huniform htwins).bind_both
  rintro (e | reply) _ rfl
  · apply (Alike.silent (warn_aside warning).toSilent
      (warn_aside warning).toSilent).mono
    exact fun _ _ _ _ hsame => ⟨rfl, hsame⟩
  · exact .same _

theorem exec_alike (huniform : backend.Uniform behaviour start.database)
    (sql : String) (arguments : List Value) :
    Alike backend start Same (exec backend sql arguments)
      (exec backend sql arguments) (Both Eq) := by
  apply Alike.bind_aside inTransaction_aside inTransaction_aside
  intro unmarked marked
  apply Alike.ask huniform
  intro outside inside hsame answer reply hanswer hreply
  obtain rfl : answer = reply := by rw [hanswer, hreply, hsame.executed]
  exact ⟨rfl, hsame.concat rfl⟩

theorem execPrepared_alike (huniform : backend.Uniform behaviour start.database)
    {own shared : Prepared} (htwins : Twins own shared)
    (arguments : List Value) :
    Alike backend start Same (ask backend (.execPrepared own arguments))
      (ask backend (.execPrepared shared arguments)) (Both Eq) := by
  apply Alike.ask huniform
  intro outside inside hsame answer reply hanswer hreply
  obtain rfl : answer = reply := by
    rw [hanswer, hreply, hsame.executed, htwins.sql]
  refine ⟨rfl, hsame.concat ?_⟩
  rw [Call.submission?, Call.submission?, htwins.sql]

/-- Both cursors read the same, and as much of it. -/
structure Reads (left right : Nat) (outside inside : List Event) : Prop where
  same : Same outside inside
  reading : ∃ reading,
    reading? outside left = some reading ∧ reading? inside right = some reading

/-- Two cursors that were opened on one result. The one in the transaction owns
no statement. -/
structure Opened (left right : OpenedQuery) (outside inside : List Event) :
    Prop where
  result : left.result = right.result
  unowned : right.statement = none
  reads : Reads left.cursor right.cursor outside inside

/-- Two events submit the same and open one cursor each. -/
theorem Reads.of_opened (reading : Reading) {outside inside : List Event}
    {opened other : Event} {left right : Nat} (hsame : Same outside inside)
    (hsubmitted : opened.call.submission? = other.call.submission?)
    (hleft : ∀ before, opened.follow left before = some reading)
    (hright : ∀ before, other.follow right before = some reading) :
    Reads left right (outside ++ [opened]) (inside ++ [other]) := by
  refine ⟨hsame.concat hsubmitted, reading, ?_, ?_⟩
  · rw [reading?_concat, hleft]
  · rw [reading?_concat, hright]

theorem queryPrepared_alike
    (huniform : backend.Uniform behaviour start.database)
    {own shared : Prepared} (htwins : Twins own shared)
    (arguments : List Value) :
    Alike backend start Same (queryPrepared backend own arguments)
      (queryPrepared backend shared arguments) (Either Opened) := by
  apply Alike.bind_silent nextNumber_silent nextNumber_silent
  intro left right
  have hasked :
      Alike backend start Same (ask backend (.queryPrepared left own arguments))
      (ask backend (.queryPrepared right shared arguments))
          fun answer reply outside inside =>
        answer = reply ∧ Same outside inside ∧
          ∀ result, answer = .ok result → Reads left right outside inside := by
    apply Alike.ask huniform
    intro outside inside hsame answer reply hanswer hreply
    obtain rfl : answer = reply := by rw [hanswer, hreply, htwins.sql]
    have hsubmitted : (Call.queryPrepared left own arguments).submission? =
        (Call.queryPrepared right shared arguments).submission? := by
      rw [Call.submission?, Call.submission?, htwins.sql]
    refine ⟨rfl, hsame.concat hsubmitted, ?_⟩
    rintro result rfl
    apply Reads.of_opened ⟨own.sql, arguments, 0⟩ hsame hsubmitted
    · exact fun _ => if_pos rfl
    · rw [htwins.sql]
      exact fun _ => if_pos rfl
  apply hasked.bind
  rintro (e | result) _ ⟨_, _, rfl, -⟩
  · exact .pure fun _ _ hfailed => .failed hfailed.2.1
  · refine .pure fun _ _ hopened => .succeeded ⟨rfl, ?_, hopened.2.2 result rfl⟩
    rw [htwins.shared]
    rfl

theorem query_alike (huniform : backend.Uniform behaviour start.database)
    (sql : String) (arguments : List Value) :
    Alike backend start Same (query backend sql arguments)
      (query backend sql arguments) (Either Opened) := by
  rw [query]
  split
  · apply Alike.bind_silent nextNumber_silent nextNumber_silent
    intro left right
    apply Alike.bind_aside inTransaction_aside inTransaction_aside
    intro unmarked marked
    have hasked :
        Alike backend start Same
          (ask backend (.query left unmarked sql arguments))
        (ask backend (.query right marked sql arguments))
            fun answer reply outside inside =>
          answer = reply ∧ Same outside inside ∧
            ∀ result, answer = .ok result →
              Reads left right outside inside := by
      apply Alike.ask huniform
      intro outside inside hsame answer reply hanswer hreply
      obtain rfl : answer = reply := hanswer.trans hreply.symm
      refine ⟨rfl, hsame.concat rfl, ?_⟩
      rintro result rfl
      exact Reads.of_opened ⟨sql, arguments, 0⟩ hsame rfl (fun _ => if_pos rfl)
        (fun _ => if_pos rfl)
    apply hasked.bind
    rintro (e | result) _ ⟨_, _, rfl, -⟩
    · exact .pure fun _ _ hfailed => .failed hfailed.2.1
    · exact .pure fun _ _ hopened =>
        .succeeded ⟨rfl, rfl, hopened.2.2 result rfl⟩
  · apply (prepare_alike huniform sql).bind_both
    rintro _ _ (@⟨own, shared, -, htwins⟩)
    apply (queryPrepared_alike huniform htwins arguments).bind_either
    · intro e
      apply (releaseOrWarn_alike huniform htwins _).bind_both
      intro _ _ _
      exact .pure fun _ _ hsame => .failed hsame
    · intro left right _
      exact .pure fun _ _ hopened => .succeeded hopened

end NamedSql.Session
