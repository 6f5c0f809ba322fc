import Lag.Event
import Mathlib.Data.List.Perm.Subperm

/-!
# Delivery of events

Handlers may do what everybody may: subscribe, end subscriptions, ask for their number, publish,
fail. Here everybody keeps a record of what the publisher was asked and what it answered, and a
handler records that it is called. Whoever does what, the record of a run is lawful. A publication
returns, and calls the subscriptions to its topic that were there when it started, each once and in
order. The number of subscriptions is that of all that were made less those that were ended.
-/
namespace Lag.Publisher

variable {κ η ε α β : Type}

/-! ## How works end -/

/-- How a work ends at a desk. -/
def ended (work : Work κ η α) (desk : Desk κ η) : Except String α × Desk κ η :=
  (ExceptT.run work).run desk

/-- A result ends a work at once. -/
@[simp] theorem ended_pure (result : α) (desk : Desk κ η) :
    ended (pure result) desk = (.ok result, desk) := rfl

/-- A failure ends a work at once. -/
@[simp] theorem ended_throw (fault : String) (desk : Desk κ η) :
    ended (throw fault : Work κ η α) desk = (.error fault, desk) := rfl

/-- A look at the desk. -/
@[simp] theorem ended_get (desk : Desk κ η) :
    ended (get : Work κ η (Desk κ η)) desk = (.ok desk, desk) := rfl

/-- A change of the desk. -/
@[simp] theorem ended_modify (change : Desk κ η → Desk κ η) (desk : Desk κ η) :
    ended (modify change : Work κ η Unit) desk = (.ok (), change desk) := rfl

/-- A work goes on from where its first step ends, unless that fails. -/
theorem ended_bind (work : Work κ η α) (next : α → Work κ η β) (desk : Desk κ η) :
    ended (work >>= next) desk = match ended work desk with
      | (.ok result, after) => ended (next result) after
      | (.error fault, after) => (.error fault, after) := by
  unfold ended
  rw [ExceptT.run_bind, StateT.run_bind]
  cases (ExceptT.run work).run desk with
  | mk outcome after => cases outcome <;> rfl

/-- A failure may be caught. -/
theorem ended_tryCatch (work : Work κ η α) (handle : String → Work κ η α) (desk : Desk κ η) :
    ended (tryCatch work handle) desk = match ended work desk with
      | (.ok result, after) => (.ok result, after)
      | (.error fault, after) => ended (handle fault) after := by
  unfold ended ExceptT.run StateT.run
  simp only [tryCatch, tryCatchThe, MonadExceptOf.tryCatch, ExceptT.tryCatch, ExceptT.mk, bind,
    StateT.bind]
  cases work desk with
  | mk outcome after => cases outcome <;> rfl

/-! ## Records -/

/-- A moment of a run: what the publisher was asked and answered, and whom it called. -/
inductive Moment (η ε : Type) where
  /-- A handler was subscribed to a topic. -/
  | subscribed (topic : String) (handler : Option η)
  /-- The oldest subscription of a handler to a topic was ended, or there was none. -/
  | unsubscribed (topic : String) (handler : Option η) (found : Bool)
  /-- The number of subscriptions to a topic. -/
  | counted (topic : String) (number : Nat)
  /-- A handler was called with an event, at a level of publications inside each other. -/
  | called (level : Nat) (handler : η) (event : ε)
  /-- The publication of an event returned, at a level; the moments before it started. -/
  | published (level : Nat) (event : ε) (since : Nat)
  deriving DecidableEq, Repr

/-- The handler that was subscribed to a topic. -/
def Moment.subscription? (topic : String) : Moment η ε → Option η
  | .subscribed other handler => if other = topic then handler else none
  | _ => none

/-- The handler of which a subscription to a topic was ended. -/
def Moment.ending? (topic : String) : Moment η ε → Option η
  | .unsubscribed other handler true => if other = topic then handler else none
  | _ => none

/-- The handler that was called at a level, with the event. -/
def Moment.call? (level : Nat) : Moment η ε → Option (η × ε)
  | .called other handler event => if other = level then some (handler, event) else none
  | _ => none

/-- The subscriptions to a topic that were made, in order. -/
def subscriptionsIn (topic : String) (moments : List (Moment η ε)) : List η :=
  moments.filterMap (Moment.subscription? topic)

/-- The subscriptions to a topic that were ended, in the order in which they were ended. -/
def endingsIn (topic : String) (moments : List (Moment η ε)) : List η :=
  moments.filterMap (Moment.ending? topic)

/-- The calls at a level, in order. -/
def callsIn (level : Nat) (moments : List (Moment η ε)) : List (η × ε) :=
  moments.filterMap (Moment.call? level)

variable [DecidableEq η]

/-- The subscriptions to a topic that are left, in order: those that were made, less one for each
that was ended, the oldest of its handler. -/
def present (topic : String) (moments : List (Moment η ε)) : List η :=
  (subscriptionsIn topic moments).diff (endingsIn topic moments)

/-- What a moment says that comes after some others. -/
def Moment.Lawful (name : ε → String) (before : List (Moment η ε)) : Moment η ε → Prop
  | .subscribed _ handler => handler.isSome = true
  | .unsubscribed topic handler found =>
    found = true ↔ ∃ known ∈ handler, known ∈ present topic before
  | .counted topic number =>
    number + (endingsIn topic before).length = (subscriptionsIn topic before).length
  | .called _ _ _ => True
  | .published level event since =>
    callsIn level (before.drop since) =
      (present (name event) (before.take since)).map fun handler => (handler, event)

/-- Every moment of a record is lawful after those before it. -/
def Lawful (name : ε → String) (record : List (Moment η ε)) : Prop :=
  ∀ before moment, before ++ [moment] <+: record → moment.Lawful name before

/-- A further moment. -/
theorem Lawful.concat {name : ε → String} {record : List (Moment η ε)} {moment : Moment η ε}
    (lawful : Lawful name record) (last : moment.Lawful name record) :
    Lawful name (record ++ [moment]) := by
  intro before other front
  rcases List.prefix_concat_iff.1 front with same | front
  · obtain ⟨rfl, own⟩ := List.append_inj' same rfl
    obtain rfl := List.singleton_inj.1 own
    exact last
  · exact lawful before other front

/-! ## What everybody does -/

/-- What somebody does, step by step. -/
inductive Conduct (κ η ε : Type) where
  /-- Nothing more. -/
  | done
  /-- Fail for a reason. -/
  | fail (reason : String)
  /-- Subscribe a handler to a topic. -/
  | subscribe (topic : String) (handler : Option η) (next : Conduct κ η ε)
  /-- End a subscription of a handler to a topic, and go on as it is found or not. -/
  | unsubscribe (topic : String) (handler : Option η) (next : Bool → Conduct κ η ε)
  /-- Ask for the number of subscriptions to a topic. -/
  | count (topic : String) (next : Nat → Conduct κ η ε)
  /-- Publish an event. -/
  | publish (event : ε) (next : Conduct κ η ε)
  /-- Recall what is remembered. -/
  | recollect (next : κ → Conduct κ η ε)
  /-- Remember something else. -/
  | remember (memory : κ) (next : Conduct κ η ε)

/-- What everybody remembers, and the record of the run. -/
structure Memory (κ η ε : Type) where
  /-- What is remembered. -/
  own : κ
  /-- The record. -/
  record : List (Moment η ε) := []

/-- Record a moment. -/
def keep (moment : Moment η ε) : Work (Memory κ η ε) η Unit :=
  modify fun desk => { desk with
    own := { desk.own with record := desk.own.record ++ [moment] } }

/-- Subscribe a handler to a topic and record it. -/
def enrolling (topic : String) (handler : Option η) : Work (Memory κ η ε) η Unit := do
  enrol topic handler
  keep (.subscribed topic handler)

/-- End a subscription of a handler to a topic and record whether it was found. -/
def dismissing (topic : String) (handler : Option η) : Work (Memory κ η ε) η Bool := do
  let found ← dismiss topic handler
  keep (.unsubscribed topic handler found)
  return found

/-- Ask for the number of subscriptions to a topic and record it. -/
def counting (topic : String) : Work (Memory κ η ε) η Nat := do
  let number := (← get).publisher.count topic
  keep (.counted topic number)
  return number

/-- What somebody does is done, with a way to publish events. -/
def Conduct.run (tell : ε → Work (Memory κ η ε) η Unit) :
    Conduct κ η ε → Work (Memory κ η ε) η Unit
  | .done => return
  | .fail reason => throw reason
  | .subscribe topic handler next => do
    enrolling topic handler
    next.run tell
  | .unsubscribe topic handler next => do (next (← dismissing topic handler)).run tell
  | .count topic next => do (next (← counting topic)).run tell
  | .publish event next => do
    tell event
    next.run tell
  | .recollect next => do (next (← get).own.own).run tell
  | .remember memory next => do
    modify fun desk => { desk with own := { desk.own with own := memory } }
    next.run tell

/-- Publish an event at a level, to handlers that react to it. -/
def tell (name : ε → String) (level : Nat) (react : η → ε → Work (Memory κ η ε) η Unit)
    (event : ε) : Work (Memory κ η ε) η Unit := do
  let since := (← get).own.record.length
  let _ ← announce react (name event) event
  keep (.published level event since)

/-- A handler that is called does what it does, with publications one level further in. Calls inside
each other are limited; where there is no further level a call fails. -/
def react (name : ε → String) (conduct : η → ε → Conduct κ η ε) :
    Nat → η → ε → Work (Memory κ η ε) η Unit
  | 0, handler, event => do
    keep (.called 0 handler event)
    throw "maximum recursion depth exceeded"
  | level + 1, handler, event => do
    keep (.called (level + 1) handler event)
    (conduct handler event).run (tell name level (react name conduct level))

/-! ## Publishers and records -/

/-- A desk whose record is lawful and says which subscriptions the publisher has. -/
structure Truthful (name : ε → String) (desk : Desk (Memory κ η ε) η) : Prop where
  /-- The record is lawful. -/
  lawful : Lawful name desk.own.record
  /-- The publisher has the subscriptions that are left. -/
  handlers : ∀ topic, desk.publisher.handlers topic = present topic desk.own.record
  /-- Each subscription that was ended had been made. -/
  made : ∀ topic, (endingsIn topic desk.own.record).Subperm (subscriptionsIn topic desk.own.record)

omit [DecidableEq η] in
/-- What a further moment adds to the subscriptions that were made. -/
theorem subscriptionsIn_concat (topic : String) (record : List (Moment η ε))
    (moment : Moment η ε) : subscriptionsIn topic (record ++ [moment]) =
      subscriptionsIn topic record ++ (moment.subscription? topic).toList := by
  rw [subscriptionsIn, List.filterMap_append]
  cases found : moment.subscription? topic <;> simp [found, subscriptionsIn]

omit [DecidableEq η] in
/-- What a further moment adds to the subscriptions that were ended. -/
theorem endingsIn_concat (topic : String) (record : List (Moment η ε)) (moment : Moment η ε) :
    endingsIn topic (record ++ [moment]) =
      endingsIn topic record ++ (moment.ending? topic).toList := by
  rw [endingsIn, List.filterMap_append]
  cases found : moment.ending? topic <;> simp [found, endingsIn]

/-- A subscription comes last, if those that were ended had been made. -/
theorem diff_concat {made ended : List η} (before : ended.Subperm made) (handler : η) :
    (made ++ [handler]).diff ended = made.diff ended ++ [handler] := by
  induction ended generalizing made with
  | nil => rw [List.diff_nil, List.diff_nil]
  | cons first rest ih =>
    have inside : first ∈ made := before.subset List.mem_cons_self
    have left : rest.Subperm (made.erase first) := by
      have erased := before.erase first
      rwa [List.erase_cons_head] at erased
    rw [List.diff_cons, List.diff_cons, List.erase_append_left _ inside, ih left]

/-- A further subscription is left, and comes last. -/
theorem present_subscribed {topic other : String} {record : List (Moment η ε)}
    (made : (endingsIn other record).Subperm (subscriptionsIn other record)) (handler : η) :
    present other (record ++ [.subscribed topic (some handler)]) =
      if topic = other then present other record ++ [handler] else present other record := by
  have kept : (Moment.subscribed topic (some handler) : Moment η ε).ending? other = none := rfl
  have added : (Moment.subscribed topic (some handler) : Moment η ε).subscription? other =
      if topic = other then some handler else none := rfl
  rw [present, subscriptionsIn_concat, endingsIn_concat, kept, added, Option.toList_none,
    List.append_nil]
  split
  · exact diff_concat made handler
  · rw [Option.toList_none, List.append_nil, present]

/-- The oldest subscription of a handler is ended. -/
theorem present_ended (topic other : String) (record : List (Moment η ε)) (handler : η) :
    present other (record ++ [.unsubscribed topic (some handler) true]) =
      if topic = other then (present other record).erase handler else present other record := by
  have kept : (Moment.unsubscribed topic (some handler) true : Moment η ε).subscription? other =
      none := rfl
  have ended : (Moment.unsubscribed topic (some handler) true : Moment η ε).ending? other =
      if topic = other then some handler else none := rfl
  rw [present, subscriptionsIn_concat, endingsIn_concat, kept, ended, Option.toList_none,
    List.append_nil]
  split
  · rw [Option.toList_some, List.diff_append, List.diff_cons, List.diff_nil, present]
  · rw [Option.toList_none, List.append_nil, present]

/-- As many subscriptions are left as were made and not ended. -/
theorem length_present {topic : String} {record : List (Moment η ε)}
    (made : (endingsIn topic record).Subperm (subscriptionsIn topic record)) :
    (present topic record).length + (endingsIn topic record).length =
      (subscriptionsIn topic record).length := by
  have whole := (List.subperm_append_diff_self_of_count_le
    (List.subperm_ext_iff.1 made)).length_eq
  rw [List.length_append] at whole
  rw [Nat.add_comm]
  exact whole

namespace Truthful

variable {name : ε → String} {desk : Desk (Memory κ η ε) η}

/-- The number of subscriptions is that of those that were made less those that were ended. -/
theorem count (truthful : Truthful name desk) (topic : String) :
    desk.publisher.count topic + (endingsIn topic desk.own.record).length =
      (subscriptionsIn topic desk.own.record).length := by
  rw [Publisher.count, truthful.handlers, length_present (truthful.made topic)]

/-- A moment without a subscription and without an end of one is recorded. -/
theorem keep (truthful : Truthful name desk) {moment : Moment η ε}
    (lawful : moment.Lawful name desk.own.record)
    (subscribes : ∀ topic, moment.subscription? topic = none)
    (ends : ∀ topic, moment.ending? topic = none) :
    Truthful name (ended (Publisher.keep moment) desk).2 where
  lawful := truthful.lawful.concat lawful
  handlers topic := by
    show desk.publisher.handlers topic = present topic (desk.own.record ++ [moment])
    rw [truthful.handlers, present, present, subscriptionsIn_concat, endingsIn_concat, subscribes,
      ends, Option.toList_none, List.append_nil, List.append_nil]
  made topic := by
    show List.Subperm (endingsIn topic (desk.own.record ++ [moment]))
      (subscriptionsIn topic (desk.own.record ++ [moment]))
    rw [subscriptionsIn_concat, endingsIn_concat, subscribes, ends]
    simpa using truthful.made topic

/-- A subscription is recorded. -/
theorem subscribe (truthful : Truthful name desk) (topic : String) (handler : η) :
    Truthful name ⟨desk.publisher.subscribe topic handler, desk.journal,
      { desk.own with record := desk.own.record ++ [.subscribed topic (some handler)] }⟩ where
  lawful := truthful.lawful.concat rfl
  handlers other := by
    show (desk.publisher.subscribe topic handler).handlers other = _
    rw [present_subscribed (truthful.made other), Publisher.subscribe, ← truthful.handlers]
    split
    · rename_i same
      rw [← same, handlers_withHandlers]
    · rename_i different
      rw [handlers_withHandlers_ne _ _ (Ne.symm different)]
  made other := by
    show List.Subperm (endingsIn other (_ ++ [_])) (subscriptionsIn other (_ ++ [_]))
    rw [subscriptionsIn_concat, endingsIn_concat]
    have kept : (Moment.subscribed topic (some handler) : Moment η ε).ending? other = none := rfl
    rw [kept, Option.toList_none, List.append_nil]
    exact (truthful.made other).trans (List.sublist_append_left _ _).subperm

/-- The end of a subscription that is there is recorded. -/
theorem unsubscribe (truthful : Truthful name desk) (topic : String) {handler : η}
    (inside : handler ∈ desk.publisher.handlers topic) :
    Truthful name
      ⟨desk.publisher.withHandlers ((desk.publisher.handlers topic).erase handler) topic,
        desk.journal, { desk.own with
          record := desk.own.record ++ [.unsubscribed topic (some handler) true] }⟩ where
  lawful := by
    refine truthful.lawful.concat ?_
    rw [truthful.handlers] at inside
    exact ⟨fun _ => ⟨handler, rfl, inside⟩, fun _ => rfl⟩
  handlers other := by
    show (desk.publisher.withHandlers _ topic).handlers other = _
    rw [present_ended, ← truthful.handlers]
    split
    · rename_i same
      rw [← same, handlers_withHandlers]
    · rename_i different
      rw [handlers_withHandlers_ne _ _ (Ne.symm different)]
  made other := by
    show List.Subperm (endingsIn other (_ ++ [_])) (subscriptionsIn other (_ ++ [_]))
    rw [subscriptionsIn_concat, endingsIn_concat]
    have kept : (Moment.unsubscribed topic (some handler) true : Moment η ε).subscription? other =
        none := rfl
    have ended : (Moment.unsubscribed topic (some handler) true : Moment η ε).ending? other =
        if topic = other then some handler else none := rfl
    rw [kept, ended, Option.toList_none, List.append_nil]
    split
    · rename_i same
      rw [truthful.handlers, same] at inside
      -- What was ended before and what is left are together what was made.
      have whole := List.subperm_append_diff_self_of_count_le
        (List.subperm_ext_iff.1 (truthful.made other))
      have front : List.Subperm (endingsIn other desk.own.record ++ [handler])
          (endingsIn other desk.own.record ++ present other desk.own.record) :=
        (List.subperm_append_left _).2 (List.singleton_subperm_iff.2 inside)
      exact front.trans whole.subperm
    · rw [Option.toList_none, List.append_nil]
      exact truthful.made other

end Truthful

/-! ## Works that keep the record -/

/-- A desk after another: the record goes on, with some calls at a level and with none at the levels
above. -/
structure Goes (name : ε → String) (level : Nat) (calls : List (η × ε))
    (desk after : Desk (Memory κ η ε) η) : Prop where
  /-- The record is lawful and says which subscriptions there are. -/
  truthful : Truthful name after
  /-- The moments that were added. -/
  added : ∃ moments, after.own.record = desk.own.record ++ moments ∧
    callsIn level moments = calls ∧ ∀ higher, level < higher → callsIn higher moments = []

namespace Goes

variable {name : ε → String} {level : Nat} {calls others : List (η × ε)}
  {desk middle after : Desk (Memory κ η ε) η}

/-- A desk is after itself. -/
theorem refl (truthful : Truthful name desk) : Goes name level [] desk desk :=
  ⟨truthful, [], (List.append_nil _).symm, rfl, fun _ _ => rfl⟩

/-- One desk after the other. -/
theorem trans (first : Goes name level calls desk middle)
    (second : Goes name level others middle after) :
    Goes name level (calls ++ others) desk after := by
  obtain ⟨_, moments, record, own, above⟩ := first
  obtain ⟨truthful, more, further, ownMore, aboveMore⟩ := second
  refine ⟨truthful, moments ++ more, by rw [further, record, List.append_assoc], ?_, ?_⟩
  · rw [callsIn, List.filterMap_append]
    exact congrArg₂ (· ++ ·) own ownMore
  · intro higher beyond
    rw [callsIn, List.filterMap_append]
    exact congrArg₂ (· ++ ·) (above higher beyond) (aboveMore higher beyond)

/-- At the next level there are no calls. -/
theorem raise (goes : Goes name level calls desk after) : Goes name (level + 1) [] desk after := by
  obtain ⟨truthful, moments, record, _, above⟩ := goes
  exact ⟨truthful, moments, record, above _ (Nat.lt_succ_self _),
    fun higher beyond => above higher (Nat.lt_of_succ_lt beyond)⟩

/-- The journal plays no part. -/
theorem leaves (goes : Goes name level calls desk middle)
    (publisher : after.publisher = middle.publisher) (own : after.own = middle.own) :
    Goes name level calls desk after := by
  obtain ⟨⟨lawful, handlers, made⟩, added⟩ := goes
  rw [← own] at lawful handlers made added
  rw [← publisher] at handlers
  exact ⟨⟨lawful, handlers, made⟩, added⟩

end Goes

/-- A work after which the record goes on, with some calls at a level, however the work ends. -/
def Does (name : ε → String) (level : Nat) (calls : List (η × ε))
    (work : Work (Memory κ η ε) η α) : Prop :=
  ∀ desk, Truthful name desk → Goes name level calls desk (ended work desk).2

namespace Does

variable {name : ε → String} {level : Nat} {calls : List (η × ε)}

/-- A result calls nobody. -/
theorem pure (result : α) : Does name level [] (Pure.pure result : Work (Memory κ η ε) η α) :=
  fun _ truthful => .refl truthful

/-- A failure calls nobody. -/
theorem throw (fault : String) :
    Does name level [] (MonadExcept.throw fault : Work (Memory κ η ε) η α) :=
  fun _ truthful => .refl truthful

/-- A step and what follows it without calls. -/
theorem bind {work : Work (Memory κ η ε) η α} {next : α → Work (Memory κ η ε) η β}
    (first : Does name level calls work) (rest : ∀ result, Does name level [] (next result)) :
    Does name level calls (work >>= next) := by
  intro desk truthful
  have goes := first desk truthful
  rw [ended_bind]
  cases ran : ended work desk with
  | mk outcome middle =>
    rw [ran] at goes
    cases outcome with
    | ok result =>
      have whole := goes.trans (rest result middle goes.truthful)
      rwa [List.append_nil] at whole
    | error fault => exact goes

/-- A call of a handler is recorded. -/
theorem called (handler : η) (event : ε) :
    Does (κ := κ) name level [(handler, event)] (keep (.called level handler event)) := by
  intro desk truthful
  refine ⟨truthful.keep trivial (fun _ => rfl) (fun _ => rfl), _, rfl, ?_, ?_⟩
  · have own : (Moment.called level handler event).call? level = some (handler, event) :=
      if_pos rfl
    rw [callsIn, List.filterMap_cons_some own, List.filterMap_nil]
  · intro higher beyond
    have other : (Moment.called level handler event).call? higher = none :=
      if_neg (Nat.ne_of_lt beyond)
    rw [callsIn, List.filterMap_cons_none other, List.filterMap_nil]

/-- A subscription is made and recorded, unless nothing is to be subscribed. -/
theorem enrolling (topic : String) (handler : Option η) :
    Does name level [] (Publisher.enrolling topic handler : Work (Memory κ η ε) η Unit) := by
  intro desk truthful
  cases handler with
  | none => exact .refl truthful
  | some handler => exact ⟨truthful.subscribe topic handler, _, rfl, rfl, fun _ _ => rfl⟩

/-- How the end of a subscription is recorded. -/
theorem ended_dismissing (topic : String) (handler : η) (desk : Desk (Memory κ η ε) η) :
    (ended (Publisher.dismissing topic (some handler)) desk).2 =
      ⟨(desk.publisher.unsubscribe topic handler).2, desk.journal, { desk.own with
        record := desk.own.record ++
          [.unsubscribed topic (some handler) (desk.publisher.unsubscribe topic handler).1] }⟩ := by
  have dismissed : ended (dismiss topic (some handler)) desk =
      (.ok (desk.publisher.unsubscribe topic handler).1,
        { desk with publisher := (desk.publisher.unsubscribe topic handler).2 }) := rfl
  rw [Publisher.dismissing, ended_bind, dismissed]
  rfl

/-- A subscription is ended and recorded, or it is recorded that there is none. -/
theorem dismissing (topic : String) (handler : Option η) :
    Does name level [] (Publisher.dismissing topic handler : Work (Memory κ η ε) η Bool) := by
  intro desk truthful
  cases handler with
  | none =>
    have lawful : (Moment.unsubscribed topic none false).Lawful name desk.own.record := by
      simp [Moment.Lawful]
    exact ⟨truthful.keep lawful (fun _ => rfl) (fun _ => rfl), _, rfl, rfl, fun _ _ => rfl⟩
  | some handler =>
    have found := ended_dismissing topic handler desk
    rw [Publisher.unsubscribe] at found
    by_cases inside : handler ∈ desk.publisher.handlers topic
    · rw [if_pos inside] at found
      rw [found]
      exact ⟨truthful.unsubscribe topic inside, _, rfl, rfl, fun _ _ => rfl⟩
    · rw [if_neg inside] at found
      have lawful : (Moment.unsubscribed topic (some handler) false).Lawful name
          desk.own.record := by
        rw [truthful.handlers] at inside
        simpa [Moment.Lawful] using inside
      have keeps := truthful.keep lawful (fun _ => rfl) (fun _ => rfl)
      rw [found]
      exact ⟨keeps, _, rfl, rfl, fun _ _ => rfl⟩

/-- The number of subscriptions is recorded. -/
theorem counting (topic : String) :
    Does name level [] (Publisher.counting topic : Work (Memory κ η ε) η Nat) := by
  intro desk truthful
  exact ⟨truthful.keep (truthful.count topic) (fun _ => rfl) (fun _ => rfl), _, rfl, rfl,
    fun _ _ => rfl⟩

/-- What somebody does calls nobody at the level above that of the publications. -/
theorem run {tell : ε → Work (Memory κ η ε) η Unit}
    (tells : ∀ event, Does name level [] (tell event)) (conduct : Conduct κ η ε) :
    Does name level [] (conduct.run tell) := by
  induction conduct with
  | done => exact .pure _
  | fail reason => exact .throw reason
  | subscribe topic handler next ih => exact (enrolling topic handler).bind fun _ => ih
  | unsubscribe topic handler next ih => exact (dismissing topic handler).bind fun found => ih found
  | count topic next ih => exact (counting topic).bind fun number => ih number
  | publish event next ih => exact (tells event).bind fun _ => ih
  | recollect next ih => exact bind (fun _ truthful => .refl truthful) fun desk => ih desk.own.own
  | remember memory next ih =>
    refine bind (fun desk truthful => ?_) fun _ => ih
    exact ⟨⟨truthful.lawful, truthful.handlers, truthful.made⟩, [], (List.append_nil _).symm, rfl,
      fun _ _ => rfl⟩

end Does

/-! ## Publications -/

section Publications

variable {name : ε → String} {level : Nat} {reacts : η → ε → Work (Memory κ η ε) η Unit}

omit [DecidableEq η] in
/-- A delivery goes on after a handler reacted. If the handler failed, that is noted; the publisher
and what is remembered stay as the handler left them. -/
theorem ended_deliver_cons {κ : Type} (reacts : η → ε → Work κ η Unit) (topic : String) (event : ε)
    (handler : η) (rest : List η) (desk : Desk κ η) :
    ∃ fault middle, middle.publisher = (ended (reacts handler event) desk).2.publisher ∧
      middle.own = (ended (reacts handler event) desk).2.own ∧
        ended (deliver reacts topic event (handler :: rest)) desk =
          ((ended (deliver reacts topic event rest) middle).1.map (⟨handler, fault⟩ :: ·),
            (ended (deliver reacts topic event rest) middle).2) := by
  have goesOn : ∀ fault middle, ended (do
        let calls ← deliver reacts topic event rest
        return Call.mk handler fault :: calls) middle =
      ((ended (deliver reacts topic event rest) middle).1.map (⟨handler, fault⟩ :: ·),
        (ended (deliver reacts topic event rest) middle).2) := by
    intro fault middle
    rw [ended_bind]
    cases ended (deliver reacts topic event rest) middle with
    | mk outcome after => cases outcome <;> rfl
  rw [deliver, ended_bind, ended_tryCatch, ended_bind]
  cases ended (reacts handler event) desk with
  | mk outcome middle =>
    cases outcome with
    | ok _ => exact ⟨none, middle, rfl, rfl, goesOn none middle⟩
    | error fault => exact ⟨some fault, middle.noting topic, rfl, rfl, goesOn _ _⟩

omit [DecidableEq η] in
/-- A delivery returns, whatever handlers do, and has called each of them. -/
theorem deliver_returns {κ : Type} (reacts : η → ε → Work κ η Unit) (topic : String) (event : ε)
    (handlers : List η) (desk : Desk κ η) :
    ∃ calls, (ended (deliver reacts topic event handlers) desk).1 = .ok calls ∧
      calls.map Call.handler = handlers := by
  induction handlers generalizing desk with
  | nil => exact ⟨[], rfl, rfl⟩
  | cons handler rest ih =>
    obtain ⟨fault, middle, _, _, same⟩ := ended_deliver_cons reacts topic event handler rest desk
    obtain ⟨calls, returns, called⟩ := ih middle
    rw [same, returns]
    exact ⟨⟨handler, fault⟩ :: calls, rfl, by rw [List.map_cons, called]⟩

/-- A delivery calls the handlers in order, if each of them is called when it reacts. -/
theorem does_deliver
    (each : ∀ handler event, Does name level [(handler, event)] (reacts handler event))
    (topic : String) (event : ε) (handlers : List η) :
    Does name level (handlers.map fun handler => (handler, event))
      (deliver reacts topic event handlers) := by
  induction handlers with
  | nil => exact .pure _
  | cons handler rest ih =>
    intro desk truthful
    obtain ⟨fault, middle, publisher, own, same⟩ :=
      ended_deliver_cons reacts topic event handler rest desk
    have goes := (each handler event desk truthful).leaves publisher own
    rw [same]
    exact goes.trans (ih middle goes.truthful)

omit [DecidableEq η] in
/-- How a publication is recorded after its delivery. -/
theorem ended_tell (event : ε) (desk : Desk (Memory κ η ε) η) :
    (ended (tell name level reacts event) desk).2 =
      (ended (keep (.published level event desk.own.record.length))
        (ended (deliver reacts (name event) event (desk.publisher.handlers (name event)))
          desk).2).2 := by
  obtain ⟨calls, returns, _⟩ := deliver_returns reacts (name event) event
    (desk.publisher.handlers (name event)) desk
  have announced : ended (announce reacts (name event) event) desk =
      ended (deliver reacts (name event) event (desk.publisher.handlers (name event))) desk := rfl
  rw [tell, ended_bind, ended_get]
  dsimp only
  rw [ended_bind, announced]
  generalize ended (deliver reacts (name event) event _) desk = delivered at returns
  obtain ⟨outcome, middle⟩ := delivered
  cases returns
  rfl

/-- A publication is recorded. At its level the handlers are called that were subscribed when it
started; one level further up it calls nobody. -/
theorem does_tell
    (each : ∀ handler event, Does name level [(handler, event)] (reacts handler event))
    (event : ε) : Does name (level + 1) [] (tell name level reacts event) := by
  intro desk truthful
  have goes := does_deliver each (name event) event (desk.publisher.handlers (name event)) desk
    truthful
  rw [ended_tell]
  generalize (ended (deliver reacts (name event) event _) desk).2 = middle at goes
  obtain ⟨moments, record, calls, _⟩ := goes.added
  have lawful : (Moment.published level event desk.own.record.length).Lawful name
      middle.own.record := by
    rw [Moment.Lawful, record, List.drop_left, List.take_left, calls, truthful.handlers]
  have told : Goes name (level + 1) [] middle
      (ended (keep (.published level event desk.own.record.length)) middle).2 :=
    ⟨goes.truthful.keep lawful (fun _ => rfl) (fun _ => rfl), _, rfl, rfl, fun _ _ => rfl⟩
  exact goes.raise.trans told

/-- A handler that reacts is called, and publishes further in. -/
theorem does_react (name : ε → String) (conduct : η → ε → Conduct κ η ε) (level : Nat)
    (handler : η) (event : ε) :
    Does name level [(handler, event)] (react name conduct level handler event) := by
  induction level generalizing handler event with
  | zero => exact (Does.called handler event).bind fun _ => .throw _
  | succ level ih =>
    exact (Does.called handler event).bind fun _ =>
      .run (does_tell ih) (conduct handler event)

end Publications

omit [DecidableEq η] in
/-- Handlers that do not fail are called as they are subscribed. -/
theorem publish_calls (reaction : η → Event → Publisher η → Publisher η) (publisher : Publisher η)
    (event : Event) : (publish reaction publisher event).1 = publisher.handlers event.topic := by
  let reacts (handler : η) (event : Event) : Work Unit η Unit :=
    modify fun desk => { desk with publisher := reaction handler event desk.publisher }
  obtain ⟨calls, returns, called⟩ := deliver_returns reacts event.topic.name event
    (publisher.handlers event.topic) { publisher, own := () }
  show ((ended (deliver reacts event.topic.name event (publisher.handlers event.topic))
    { publisher, own := () }).1.toOption.getD []).map Call.handler = _
  rw [returns]
  exact called

/-- A run of somebody who starts with no subscriptions: where it ends. -/
def runOf (name : ε → String) (conduct : η → ε → Conduct κ η ε) (level : Nat)
    (client : Conduct κ η ε) (memory : κ) : Desk (Memory κ η ε) η :=
  (ended (client.run (tell name level (react name conduct level))) ⟨{}, [], { own := memory }⟩).2

/-- Deliveries. Whatever somebody and the handlers do, in whatever order and with publications
inside each other, every moment of the run is lawful: a publication calls at its level the
subscriptions to the topic of its event that were there when it started, each once and in order;
the end of a subscription is found exactly if there is one; and the number of subscriptions to a
topic is that of those that were made less those that were ended, whenever somebody asks and at the
end. And every publication returns, whatever the subscriptions are and whatever handlers do. -/
theorem deliveries_lawful (name : ε → String) (conduct : η → ε → Conduct κ η ε) (level : Nat)
    (client : Conduct κ η ε) (memory : κ) :
    Lawful name (runOf name conduct level client memory).own.record ∧
      (∀ topic, (runOf name conduct level client memory).publisher.count topic +
          (endingsIn topic (runOf name conduct level client memory).own.record).length =
        (subscriptionsIn topic (runOf name conduct level client memory).own.record).length) ∧
      ∀ {own : Type} (reacts : η → ε → Work own η Unit) (event : ε) (desk : Desk own η),
        ∃ calls, (ended (announce reacts (name event) event) desk).1 = .ok calls ∧
          calls.map Call.handler = desk.publisher.handlers (name event) := by
  have start : Truthful name (⟨{}, [], { own := memory }⟩ : Desk (Memory κ η ε) η) := by
    refine ⟨fun before moment front => ?_, fun topic => rfl, fun topic => List.Subperm.refl _⟩
    exact absurd (List.prefix_nil.1 front) (by simp)
  have goes := Does.run (does_tell (does_react name conduct level)) client _ start
  refine ⟨goes.truthful.lawful, goes.truthful.count, ?_⟩
  intro own reacts event desk
  exact deliver_returns reacts (name event) event _ desk

/-- What two handlers do: the first fails, and the second ends its oldest subscription. -/
def clumsy (handler : Nat) (_ : Event) : Conduct Unit Nat Event :=
  if handler = 0 then .fail "no" else .unsubscribe Topic.compiled (some handler) fun _ => .done

/-- A publication to a handler that fails, between two subscriptions of one that ends them. -/
example : (runOf (fun event => event.topic.name) clumsy 2
    (.subscribe Topic.compiled (some 1) (.subscribe Topic.compiled (some 0)
      (.subscribe Topic.compiled (some 1) (.publish (.compiled "a" true)
        (.count Topic.compiled fun _ => .done))))) ()).own.record =
    [.subscribed Topic.compiled (some 1), .subscribed Topic.compiled (some 0),
      .subscribed Topic.compiled (some 1), .called 2 1 (.compiled "a" true),
      .unsubscribed Topic.compiled (some 1) true, .called 2 0 (.compiled "a" true),
      .called 2 1 (.compiled "a" true), .unsubscribed Topic.compiled (some 1) true,
      .published 2 (.compiled "a" true) 3, .counted Topic.compiled 1] := by
  decide +kernel

end Lag.Publisher
