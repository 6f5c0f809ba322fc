import Lag.Proofs.Scoping.Simulates
import Lag.World.Content

/-!
# Runs in different worlds

A module computes with its variables only. What is around it, the world and what is done with the
lines that it writes, takes no part in this as long as its variables are left alone. So two runs of
a module in related worlds give the same results or meet the same trouble, and leave the same
variables and related worlds behind, if written lines keep the worlds related.

Scripts of the host language also see the things that all scripts share. Their runs are alike if
these are the same and stay so. What scripts may make of the shared things is kept as a condition,
which may be none.
-/
namespace Lag.Run

variable {σ υ α β : Type} {related : σ → υ → Prop}

/-- States with the same variables in related worlds. -/
structure Alike (related : σ → υ → Prop) (state : State σ) (other : State υ) : Prop where
  /-- The variables of the module are the same. -/
  globals : state.globals = other.globals
  /-- The variables of the function are the same. -/
  locals : state.locals = other.locals
  /-- The worlds are related. -/
  world : related state.world other.world

/-- Runs that give the same from states with the same variables in related worlds. -/
def Agree (related : σ → υ → Prop) (first : Eval σ α) (second : Eval υ α) : Prop :=
  Simulates (Alike related) first second
    (fun result other state after => result = other ∧ Alike related state after)
    fun trouble other state after => trouble = other ∧ Alike related state after

/-- What is done with written lines keeps worlds related, and gives the same variables. -/
def Writes (related : σ → υ → Prop) (write : Writer σ) (other : Writer υ) : Prop :=
  ∀ line globals world after, related world after →
    (write line globals world).1 = (other line globals after).1 ∧
      related (write line globals world).2 (other line globals after).2

namespace Agree

/-- The same result. -/
theorem pure (result : α) : Agree related (Pure.pure result) (Pure.pure result) :=
  Simulates.pure fun _ _ alike => ⟨rfl, alike⟩

/-- The same trouble. -/
theorem throw (trouble : Trouble) :
    Agree related (MonadExcept.throw trouble : Eval σ α) (MonadExcept.throw trouble) :=
  fun _ _ alike => .troubles ⟨rfl, alike⟩

/-- The same operation. -/
theorem lift (outcome : Outcome α) : Agree related (Run.lift outcome) (Run.lift outcome) :=
  Simulates.lift (fun _ _ _ alike => ⟨rfl, alike⟩) fun _ _ _ alike => ⟨rfl, alike⟩

/-- Runs that go on from the same result. -/
theorem bind {first : Eval σ α} {second : Eval υ α} {next : α → Eval σ β} {further : α → Eval υ β}
    (starts : Agree related first second)
    (goes : ∀ result, Agree related (next result) (further result)) :
    Agree related (first >>= next) (second >>= further) := by
  refine Simulates.bind starts fun result other => ?_
  rintro state after ⟨rfl, alike⟩
  exact goes result state after alike

/-- Changes that keep states alike. -/
theorem changes {change : State σ → State σ} {other : State υ → State υ}
    (keeps : ∀ state after, Alike related state after →
      Alike related (change state) (other after)) :
    Agree related (modify change) (modify other) :=
  Simulates.changes fun state after alike => ⟨rfl, keeps state after alike⟩

/-- Runs that go on from a look at the state. -/
theorem look {next : State σ → Eval σ α} {further : State υ → Eval υ α}
    (goes : ∀ state after, Alike related state after →
      Both (fun result other state after => result = other ∧ Alike related state after)
        (fun trouble other state after => trouble = other ∧ Alike related state after)
        (endOf (next state) state) (endOf (further after) after)) :
    Agree related (get >>= next) (get >>= further) := by
  intro state after alike
  rw [endOf_bind, endOf_bind, endOf_get, endOf_get]
  exact goes state after alike

/-- Loops with a test. -/
theorem rounds {test : Eval σ Value} {other : Eval υ Value} {body : Eval σ Flow}
    {another : Eval υ Flow} (tests : Agree related test other) (goes : Agree related body another)
    (count : Nat) :
    Agree related (Run.rounds test body count) (Run.rounds other another count) := by
  induction count with
  | zero => exact throw .endless
  | succ count ih =>
    refine tests.bind fun value => ?_
    split
    · refine goes.bind fun flow => ?_
      cases flow with
      | next => exact ih
      | leave value => exact pure _
    · exact pure _

/-- Loops with a counter. -/
theorem countRounds {step : Value → Eval σ Flow} {other : Value → Eval υ Flow}
    (steps : ∀ value, Agree related (step value) (other value)) (count : Nat) :
    ∀ counter, Agree related (Run.countRounds step counter count)
      (Run.countRounds other counter count) := by
  induction count with
  | zero => exact fun _ => pure _
  | succ count ih =>
    intro counter
    refine (steps _).bind fun flow => ?_
    cases flow with
    | next => exact ih (counter + 1)
    | leave value => exact pure _

/-- Loops over the characters of a text. -/
theorem textRounds {step : Value → Eval σ Flow} {other : Value → Eval υ Flow}
    (steps : ∀ value, Agree related (step value) (other value)) (text : List Char) :
    Agree related (Run.textRounds step text) (Run.textRounds other text) := by
  induction text with
  | nil => exact pure _
  | cons c rest ih =>
    refine (steps _).bind fun flow => ?_
    cases flow with
    | next => exact ih
    | leave value => exact pure _

/-- Loops over what a value holds. -/
theorem roundsOver {step : Value → Eval σ Flow} {other : Value → Eval υ Flow}
    (steps : ∀ value, Agree related (step value) (other value)) (value : Value) :
    Agree related (Run.roundsOver step value) (Run.roundsOver other value) := by
  unfold Run.roundsOver
  split
  · exact countRounds steps _ _
  · exact textRounds steps _
  · exact throw _

end Agree

/-- Frames that differ at most in their worlds. -/
structure Frame.Alike (related : σ → υ → Prop) (frame : Frame σ) (other : Frame υ) : Prop where
  /-- The local names are the same. -/
  names : frame.names = other.names
  /-- The other names stand for the same. -/
  outer : frame.outer = other.outer
  /-- Calls give the same. -/
  call : ∀ callee arguments,
    Agree related (frame.call callee arguments) (other.call callee arguments)
  /-- Written lines keep worlds related. -/
  write : Writes related frame.write other.write
  /-- The limits on rounds are the same. -/
  rounds : frame.rounds = other.rounds

namespace Frame.Alike

variable {frame : Frame σ} {other : Frame υ}

/-- Frames of a function stay alike. -/
theorem within (alike : frame.Alike related other) (names : List String) :
    Frame.Alike related { frame with names := names } { other with names := names } :=
  ⟨rfl, alike.outer, alike.call, alike.write, alike.rounds⟩

/-- A name stands for the same. -/
theorem readName (alike : frame.Alike related other) (name : String) :
    Agree related (Run.readName frame name) (Run.readName other name) := by
  refine Agree.look fun state after same => ?_
  rw [alike.names, alike.outer, same.locals, same.globals]
  split
  · cases after.locals.find? name with
    | none => exact .troubles ⟨rfl, same⟩
    | some value => exact .results ⟨rfl, same⟩
  · cases (after.globals.find? name).or (other.outer name) with
    | none => exact .troubles ⟨rfl, same⟩
    | some value => exact .results ⟨rfl, same⟩

/-- A variable gets the same value. -/
theorem writeName (alike : frame.Alike related other) (name : String) (value : Value) :
    Agree related (Run.writeName frame name value) (Run.writeName other name value) := by
  refine Agree.changes fun state after same => ?_
  rw [alike.names]
  split
  · exact ⟨same.globals, by rw [same.locals], same.world⟩
  · exact ⟨by rw [same.globals], same.locals, same.world⟩

/-- The same line is written. -/
theorem writeLine (alike : frame.Alike related other) (line : String) :
    Agree related (Run.writeLine frame line) (Run.writeLine other line) := by
  refine Agree.changes fun state after same => ?_
  rw [same.globals]
  obtain ⟨globals, world⟩ := alike.write line after.globals _ _ same.world
  exact ⟨globals, same.locals, world⟩

/-- What a name stands for is called with the same. -/
theorem callOn (alike : frame.Alike related other) (name : String) {argument : Eval σ Value}
    {another : Eval υ Value} (arguments : Agree related argument another) :
    Agree related (Run.callOn frame name argument) (Run.callOn other name another) :=
  (alike.readName name).bind fun callee => arguments.bind fun value => alike.call callee [value]

/-- The same is required of a name. -/
theorem requirePart (alike : frame.Alike related other) (name part : String) :
    Agree related (Run.requirePart frame name part) (Run.requirePart other name part) := by
  refine (alike.readName name).bind fun value => ?_
  split
  · exact Agree.pure _
  · exact Agree.throw _

/-- A built-in function is called with the same. -/
theorem callBuiltin (alike : frame.Alike related other) (function : Builtin)
    {argument : Eval σ Value} {another : Eval υ Value}
    (arguments : Agree related argument another) :
    Agree related (Run.callBuiltin frame function argument)
      (Run.callBuiltin other function another) := by
  cases function with
  | print =>
    refine (alike.requirePart _ _).bind fun _ => (alike.callOn _ arguments).bind fun text => ?_
    exact (Agree.lift _).bind fun line => (alike.writeLine line).bind fun _ => Agree.pure _
  | str => exact alike.callOn _ arguments
  | len => exact alike.callOn _ arguments
  | sqrt => exact (alike.requirePart _ _).bind fun _ => arguments.bind fun _ => Agree.lift _
  | floor => exact (alike.requirePart _ _).bind fun _ => arguments.bind fun _ => Agree.lift _

/-- A value is written as the same text. -/
theorem writeValue (alike : frame.Alike related other) (value : Value) :
    Agree related (Run.writeValue frame value) (Run.writeValue other value) := by
  refine (alike.readName _).bind fun test => (alike.readName _).bind fun kind => ?_
  refine (alike.call _ _).bind fun member => ?_
  split
  · exact Agree.pure _
  · exact (alike.readName _).bind fun conversion => alike.call _ _

mutual

/-- An expression has the same value. -/
theorem evaluate (alike : frame.Alike related other) : ∀ expr : Host.Expr,
    Agree related (Run.evaluate frame expr) (Run.evaluate other expr)
  | .int _ | .float _ | .text _ | .truth _ => Agree.pure _
  | .read name => alike.readName name
  | .not operand => (alike.evaluate operand).bind fun _ => Agree.pure _
  | .negate operand => (alike.evaluate operand).bind fun _ => Agree.lift _
  | .binary op left right => by
    refine (alike.evaluate left).bind fun value => ?_
    have second := alike.evaluate right
    have strict (op : Host.Operator) : Agree related
        (Run.evaluate frame right >>= fun other => Run.lift (operate op value other))
        (Run.evaluate other right >>= fun other => Run.lift (operate op value other)) :=
      second.bind fun _ => Agree.lift _
    cases op with
    | and =>
      cases truth value with
      | false => exact Agree.pure _
      | true => exact second
    | or =>
      cases truth value with
      | false => exact second
      | true => exact Agree.pure _
    | _ => exact strict _
  | .call function arguments =>
    (alike.readName function).bind fun callee => (alike.evaluateAll arguments).bind fun values =>
      alike.call callee values
  | .builtin function arguments =>
    alike.callBuiltin function ((alike.evaluateAll arguments).bind fun _ => Agree.pure _)
  | .toFloat value => alike.callOn _ (alike.evaluate value)

/-- Expressions have the same values. -/
theorem evaluateAll (alike : frame.Alike related other) : ∀ exprs : List Host.Expr,
    Agree related (Run.evaluateAll frame exprs) (Run.evaluateAll other exprs)
  | [] => Agree.pure _
  | expr :: rest =>
    (alike.evaluate expr).bind fun _ => (alike.evaluateAll rest).bind fun _ => Agree.pure _

end

/-- A test is decided in the same way. -/
theorem branch (alike : frame.Alike related other) (test : Host.Expr) {first otherwise : Eval σ α}
    {second another : Eval υ α} (holds : Agree related first second)
    (fails : Agree related otherwise another) :
    Agree related
      (do if truth (← Run.evaluate frame test) then first else otherwise)
      (do if truth (← Run.evaluate other test) then second else another) := by
  refine (alike.evaluate test).bind fun value => ?_
  split
  · exact holds
  · exact fails

mutual

/-- A statement does the same. -/
theorem execute (alike : frame.Alike related other) : ∀ stmt : Host.Stmt,
    Agree related (Run.execute frame stmt) (Run.execute other stmt)
  | .assign name value =>
    (alike.evaluate value).bind fun _ => (alike.writeName name _).bind fun _ => Agree.pure _
  | .evaluate value => (alike.evaluate value).bind fun _ => Agree.pure _
  | .leave none => Agree.pure _
  | .leave (some value) => (alike.evaluate value).bind fun _ => Agree.pure _
  | .ifThen test body => alike.branch test (alike.executeAll body) (Agree.pure _)
  | .ifElse test body otherwise =>
    alike.branch test (alike.executeAll body) (alike.executeAll otherwise)
  | .ifElif test body otherwise =>
    alike.branch test (alike.executeAll body) (alike.execute otherwise)
  | .whileLoop test body => by
    rw [Run.execute, Run.execute, alike.rounds]
    exact (alike.evaluate test).rounds (alike.executeAll body) _
  | .forLoop counter first bound body =>
    (alike.readName _).bind fun callee => (alike.evaluate first).bind fun _ =>
      (alike.evaluate bound).bind fun _ => (alike.call callee _).bind fun _ =>
        Agree.roundsOver (fun value => (alike.writeName counter value).bind fun _ =>
          alike.executeAll body) _

/-- Statements do the same. -/
theorem executeAll (alike : frame.Alike related other) : ∀ body : List Host.Stmt,
    Agree related (Run.executeAll frame body) (Run.executeAll other body)
  | [] => Agree.pure _
  | stmt :: rest => by
    refine (alike.execute stmt).bind fun flow => ?_
    cases flow with
    | next => exact alike.executeAll rest
    | leave value => exact Agree.pure _

end

/-- A function gives the same. -/
theorem runFunction (alike : frame.Alike related other) (function : Host.Function)
    (arguments : List Value) :
    Agree related (Run.runFunction frame function arguments)
      (Run.runFunction other function arguments) := by
  refine (Agree.lift _).bind fun locals => Agree.look fun state after same => ?_
  have body := (alike.within (localNames function)).executeAll function.body
  -- The variables of the function around are put back, which are the same on both sides.
  have puts (first second : Store) (equal : first = second) : Agree related
      (modify fun state : State σ => { state with locals := first })
      (modify fun state : State υ => { state with locals := second }) :=
    Agree.changes fun _ _ others => ⟨others.globals, equal, others.world⟩
  refine ((puts locals locals rfl).bind fun _ => body.bind fun flow =>
    (puts state.locals after.locals same.locals).bind fun _ => ?_) state after same
  cases flow with
  | next => exact Agree.pure _
  | leave value => exact Agree.pure _

end Frame.Alike

/-! ## Modules -/

section

variable {write : Writer σ} {other : Writer υ}

/-- A value is called with the same. -/
theorem agree_callValue (program : Host.Module) (writes : Writes related write other)
    (rounds depth : Nat) : ∀ callee arguments,
      Agree related (callValue program write rounds depth callee arguments)
        (callValue program other rounds depth callee arguments) := by
  induction depth with
  | zero =>
    intro callee arguments
    unfold callValue
    cases callee with
    | entity entity =>
      cases entity with
      | given name => exact Agree.lift _
      | kind name => exact Agree.lift _
      | _ => exact Agree.throw _
    | _ => exact Agree.throw _
  | succ depth ih =>
    have alike : Frame.Alike related
        ⟨[], outerValue? program, callValue program write rounds depth, write, rounds⟩
        ⟨[], outerValue? program, callValue program other rounds depth, other, rounds⟩ :=
      ⟨rfl, rfl, ih, writes, rfl⟩
    intro callee arguments
    unfold callValue
    cases callee with
    | entity entity =>
      cases entity with
      | function place name =>
        cases found : program.functions[place]? with
        | none =>
          simp only [found]
          exact Agree.throw _
        | some entry =>
          simp only [found]
          exact alike.runFunction entry.2 arguments
      | writing => exact (Agree.lift _).bind fun _ => alike.writeValue _
      | given name => exact Agree.lift _
      | kind name => exact Agree.lift _
      | _ => exact Agree.throw _
    | _ => exact Agree.throw _

/-- Nothing differs around a module but the world. -/
theorem alike_topFrame (program : Host.Module) (writes : Writes related write other)
    (limits : Limits) :
    (topFrame program write limits).Alike related (topFrame program other limits) :=
  ⟨rfl, rfl, agree_callValue program writes limits.rounds limits.calls, writes, rfl⟩

/-- Variables get the same first values. -/
theorem agree_giveFirst {frame : Frame σ} {around : Frame υ} (alike : frame.Alike related around)
    (firsts : List (String × Host.Expr)) :
    Agree related (giveFirst frame firsts) (giveFirst around firsts) := by
  induction firsts with
  | nil => exact Agree.pure _
  | cons first rest ih =>
    exact (alike.evaluate first.2).bind fun _ => (alike.writeName first.1 _).bind fun _ => ih

/-- The variables of a module get the same first values. -/
theorem agree_initialise (program : Host.Module) (writes : Writes related write other)
    (limits : Limits) :
    Agree related (initialise program write limits) (initialise program other limits) :=
  agree_giveFirst (alike_topFrame program writes limits) program.firsts

/-- A function of a module gives the same. -/
theorem agree_invoke (program : Host.Module) (writes : Writes related write other)
    (function : Entity) (arguments : List Value) (limits : Limits) :
    Agree related (invoke program write function arguments limits)
      (invoke program other function arguments limits) :=
  agree_callValue program writes limits.rounds limits.calls (.entity function) arguments

end

/-- Two runs of which one gives what the other gives. -/
theorem Agree.runOn {first : Eval σ α} {second : Eval υ α} (agree : Agree related first second)
    (globals : Store) {world : σ} {other : υ} (given : related world other) :
    (first.runOn globals world).1 = (second.runOn globals other).1 ∧
      (first.runOn globals world).2.1 = (second.runOn globals other).2.1 ∧
        related (first.runOn globals world).2.2 (second.runOn globals other).2.2 := by
  have ends := agree ⟨globals, [], world⟩ ⟨globals, [], other⟩ ⟨rfl, rfl, given⟩
  unfold Eval.runOn
  revert ends
  unfold endOf
  generalize (ExceptT.run first).run _ = firstEnd
  generalize (ExceptT.run second).run _ = secondEnd
  rintro (⟨rfl, alike⟩ | ⟨rfl, alike⟩)
  · exact ⟨rfl, alike.globals, alike.world⟩
  · exact ⟨rfl, alike.globals, alike.world⟩

/-! ## Scripts of the host language -/

/-- Two runs come to the same, and leave the same variables and related worlds. -/
structure Ends (related : σ → υ → Prop) (first : Except Accident Value × Store × σ)
    (second : Except Accident Value × Store × υ) : Prop where
  /-- They come to the same. -/
  outcome : first.1 = second.1
  /-- The variables are the same. -/
  globals : first.2.1 = second.2.1
  /-- The worlds are related. -/
  world : related first.2.2 second.2.2

/-- A course leaves shared things that are allowed, as long as it finds such. -/
def Course.Keeps (allowed : Store → Prop) : Course → Prop
  | .done _ _ shared => allowed shared
  | .line _ _ shared resume => allowed shared ∧
      ∀ globals found, allowed found → (resume globals found).Keeps allowed

/-- A script of the host language leaves shared things that are allowed. -/
def Native.Keeps (allowed : Store → Prop) (native : Native) : Prop :=
  ∀ request globals shared, allowed shared → (native.run request globals shared).Keeps allowed

/-- Every course leaves what nobody forbids. -/
theorem Course.keeps_true : ∀ course : Course, course.Keeps fun _ => True
  | .done _ _ _ => trivial
  | .line _ _ _ resume => ⟨trivial, fun globals found _ => keeps_true (resume globals found)⟩

/-- Two ports that give the same in related worlds. -/
structure Ports (allowed : Store → Prop) (related : σ → υ → Prop) (port : Port σ)
    (other : Port υ) : Prop where
  /-- The same is done with written lines. -/
  writes : Writes related port.write other.write
  /-- The shared things are the same. -/
  shared : ∀ {world after}, related world after → port.shared world = other.shared after
  /-- The shared things are allowed. -/
  found : ∀ {world after}, related world after → allowed (port.shared world)
  /-- Shared things that are allowed keep worlds related. -/
  share : ∀ {things world after}, allowed things → related world after →
    related (port.share things world) (other.share things after)

section

variable {allowed : Store → Prop} {port : Port σ} {other : Port υ}

/-- The same course does the same. -/
theorem Ports.follow (ports : Ports allowed related port other) : ∀ {course : Course},
    course.Keeps allowed → ∀ {world : σ} {after : υ}, related world after →
      Ends related (course.follow port world) (course.follow other after)
  | .done _ _ _, keeps, _, _, given => ⟨rfl, rfl, ports.share keeps given⟩
  | .line text globals shared resume, ⟨keeps, goes⟩, world, after, given => by
    obtain ⟨left, worlds⟩ := ports.writes text globals _ _ (ports.share keeps given)
    unfold Course.follow
    dsimp only
    have found := ports.found worlds
    rw [left, ports.shared worlds]
    rw [ports.shared worlds] at found
    exact ports.follow (goes _ _ found) worlds

/-- The same script of the host language does the same. -/
theorem Ports.native (ports : Ports allowed related port other) {native : Native}
    (keeps : native.Keeps allowed) (request : Request) (globals : Store) {world : σ} {after : υ}
    (given : related world after) :
    Ends related (native.serve request port globals world)
      (native.serve request other globals after) := by
  have found := ports.found given
  unfold Native.serve
  rw [ports.shared given]
  rw [ports.shared given] at found
  exact ports.follow (keeps request globals _ found) given

/-- The same part of a program does the same until something that it uses is replaced, and then if
it goes on in the same way. -/
theorem Ports.guarded (ports : Ports allowed related port other) {isReplaced : Store → Bool}
    {further : Store → List Store → Store → Course}
    (keeps : ∀ begun past shared, allowed shared → isReplaced shared = true →
      (further begun past shared).Keeps allowed)
    {part : Writer (σ × List Store) → Eval (σ × List Store) Value}
    {another : Writer (υ × List Store) → Eval (υ × List Store) Value}
    (agrees : ∀ {along : σ × List Store → υ × List Store → Prop}
      {write : Writer (σ × List Store)} {rewrite : Writer (υ × List Store)},
      Writes along write rewrite → Agree along (part write) (another rewrite))
    (globals : Store) {world : σ} {after : υ} (given : related world after) :
    Ends related (Run.guarded isReplaced further part port globals world)
      (Run.guarded isReplaced further another other globals after) := by
  let along (first : σ × List Store) (second : υ × List Store) : Prop :=
    related first.1 second.1 ∧ first.2 = second.2
  have writes : Writes along (watching isReplaced port) (watching isReplaced other) := by
    rintro line globals ⟨world, past⟩ ⟨after, _⟩ ⟨same, rfl⟩
    unfold watching
    dsimp only
    rw [ports.shared same]
    split
    · exact ⟨rfl, same, rfl⟩
    · obtain ⟨left, worlds⟩ := ports.writes line globals world after same
      exact ⟨left, worlds, congrArg (· :: past) left⟩
  have ends := (agrees writes).runOn globals
    (show along (world, []) (after, []) from ⟨given, rfl⟩)
  unfold Run.guarded
  revert ends
  generalize (part (watching isReplaced port)).runOn globals (world, []) = first
  generalize (another (watching isReplaced other)).runOn globals (after, []) = second
  obtain ⟨outcome, left, world, past⟩ := first
  obtain ⟨result, others, after, answers⟩ := second
  rintro ⟨rfl, rfl, worlds, rfl⟩
  have shared : port.shared world = other.shared after := ports.shared worlds
  have found := ports.found worlds
  dsimp only at worlds ⊢
  rw [shared] at found ⊢
  cases replaced : isReplaced (other.shared after) with
  | true => exact ports.follow (keeps globals past _ found replaced) worlds
  | false => exact ⟨rfl, rfl, worlds⟩

end

/-- A module of a program does the same on a request. -/
theorem agree_serve (program : Host.Module) (request : Request) {write : Writer σ}
    {other : Writer υ} (writes : Writes related write other) :
    Agree related (serve program request write) (serve program request other) := by
  cases request with
  | body => exact Agree.pure _
  | initial => exact (agree_initialise program writes {}).bind fun _ => Agree.pure _
  | call function arguments => exact agree_invoke program writes function arguments {}

end Lag.Run

namespace Lag.HostLanguage

variable {σ υ : Type} {related : σ → υ → Prop} {allowed : Run.Store → Prop}

/-- A module leaves shared things that are allowed. -/
def Holds (language : HostLanguage) (allowed : Run.Store → Prop) : Content → Prop
  | .lag linked => ∀ request begun past shared, allowed shared →
      language.isReplaced shared = true →
        (language.further linked request begun past shared).Keeps allowed
  | .host _ native => native.Keeps allowed

/-- All modules leave what nobody forbids. -/
theorem holds_true (language : HostLanguage) (content : Content) :
    language.Holds (fun _ => True) content := by
  cases content with
  | lag linked => exact fun _ _ _ _ _ _ => Run.Course.keeps_true _
  | host text native => exact fun _ _ _ _ => Run.Course.keeps_true _

/-- A module does the same on a request in related worlds. -/
theorem agree (language : HostLanguage) {content : Content}
    (holds : language.Holds allowed content) (request : Run.Request) {port : Run.Port σ}
    {other : Run.Port υ} (ports : Run.Ports allowed related port other) (globals : Run.Store)
    {world : σ} {after : υ} (given : related world after) :
    Run.Ends related (language.serve content request port globals world)
      (language.serve content request other globals after) := by
  cases content with
  | lag linked =>
    exact ports.guarded (holds request) (fun writes => Run.agree_serve linked.program request writes)
      globals given
  | host text native => exact ports.native holds request globals given

end Lag.HostLanguage
