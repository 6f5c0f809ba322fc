import Lag.Number.Reading
import Lag.Proofs.Scoping.Framed

/-!
# Expressions side by side

A well typed expression has the same value with nested scopes as in the host, or meets the same
trouble, and leaves states that agree if it found some.
-/
namespace Lag.Scoped

open Host (declaredBy hostName symbolsOf)
open Run (Simulates endOf endOf_bind endOf_get endOf_pure endOf_throw endOf_lift endOf_modify)
open Typing (Arguments Fits HasType Within functionSymbol)

variable {σ : Type} {α : Type} {program : Program Mark} {title : String} {base table : SymbolTable}
  {own rest : List Symbol} {inner : List Scope} {frame : Frame σ} {host : Run.Frame σ}

/-- What stays the same while a function runs. -/
structure Setting (program : Program Mark) (title : String) (base : SymbolTable)
    (own : List Symbol) (frame : Frame σ) (host : Run.Frame σ) : Prop where
  /-- The symbols of the program are told apart. -/
  laid : Laid program
  /-- The symbols of the function are told apart from all others. -/
  locals : Local program own
  /-- The frames are related. -/
  framed : Framed program title own frame host
  /-- The scope around the function is that of the module. -/
  within : Within program base

namespace Setting

/-- A name that is the host name of no symbol of the function is not local. -/
theorem not_local (setting : Setting program title base own frame host) {name : String}
    (other : ∀ symbol ∈ own, hostName program symbol ≠ name) :
    host.names.contains name = false := by
  refine Bool.eq_false_iff.2 fun isLocal => ?_
  obtain ⟨symbol, inside, same⟩ := (setting.framed.names name).1 isLocal
  exact other symbol inside same

/-- A name that is no variable of the host stands for what it stands for in the module. -/
theorem reads_outer (setting : Setting program title base own frame host) {name : String}
    {value : Value} (other : ∀ symbol ∈ own, hostName program symbol ≠ name)
    (global : ∀ symbol ∈ program.variables, hostName program symbol ≠ name)
    (stands : Run.outerValue? (hostModule title program) name = some value) {state : State σ}
    {after : Run.State σ} (outside : Outside program state after) :
    endOf (Run.readName host name) after = (.ok value, after) := by
  have missing : Table.find? after.globals name = none := by
    rw [Option.eq_none_iff_forall_ne_some]
    intro given found
    obtain ⟨symbol, inside, same⟩ := outside.only name given found
    exact global symbol inside same
  rw [Run.endOf_readName_outer (setting.not_local other), missing, setting.framed.outer,
    Option.none_or, stands]

/-- A name that stands for something without the module stands for it there too. -/
theorem reads_meaning (setting : Setting program title base own frame host) {name : String}
    (value : Value) (stands : Host.meaning? name = some value) {state : State σ}
    {after : Run.State σ} (outside : Outside program state after) :
    endOf (Run.readName host name) after = (.ok value, after) := by
  refine setting.reads_outer (fun symbol inside => ?_) (fun symbol inside => ?_) ?_ outside
  · exact setting.laid.ne_of_meaning stands (setting.locals.members symbol inside)
  · exact setting.laid.ne_of_meaning stands
      (Laid.mem_symbolsOf.2 (.inl (Laid.variable_declared inside)))
  · rw [setting.laid.outer_other title, stands]
    exact fun function inside => setting.laid.ne_of_meaning stands
      (Laid.mem_symbolsOf.2 (.inl (setting.laid.typed.function_declared inside)))

/-- The host name of a function stands for the function. -/
theorem reads_function (setting : Setting program title base own frame host) {index : Nat}
    {function : Function Mark} (found : program.functions[index]? = some function)
    {state : State σ} {after : Run.State σ} (outside : Outside program state after) :
    endOf (Run.readName host (hostName program (functionSymbol function))) after =
      (.ok (.entity (.function index (hostName program (functionSymbol function)))), after) := by
  have declared := setting.laid.typed.function_declared (List.mem_of_getElem? found)
  refine setting.reads_outer (fun symbol inside => ?_) (fun symbol inside => ?_)
    (setting.laid.outer_function title found) outside
  · exact (setting.locals.apart _ declared symbol inside).symm
  · obtain ⟨binding, _, type, rfl⟩ := setting.laid.variable_is inside
    intro same
    have is := setting.laid.symbol_eq
      (Laid.mem_symbolsOf.2 (.inl (Laid.variable_declared inside)))
      (Laid.mem_symbolsOf.2 (.inl declared)) same
    have kinds : SymbolKind.variable = SymbolKind.function := congrArg Symbol.kind is
    cases kinds

/-- A variable has the same value on both sides. -/
theorem read (setting : Setting program title base own frame host)
    (placed : Placed base own table inner rest) {name : String} {symbol : Symbol}
    (found : table.lookup? name = some symbol) (readable : symbol.kind.isFunction = false) :
    Tracks program inner (readName name : Eval σ Value)
      (Run.readName host (hostName program symbol)) := by
  intro state after inside
  have nested := placed.nested setting.locals.owned
  rcases nested.reads setting.within found readable with here | ⟨hidden, outside, rfl⟩
  · obtain ⟨value, cell, same⟩ := inside.locals.known here
    have isLocal := (setting.framed.names _).2 ⟨symbol, placed.own_of_found here, rfl⟩
    rw [endOf_readName, cell, Run.endOf_readName_local isLocal same]
    exact .results ⟨rfl, inside⟩
  · have declared := Laid.variable_declared outside
    have notLocal := setting.not_local fun known member =>
      (setting.locals.apart symbol declared known member).symm
    rw [endOf_readName, inside.locals.unknown hidden, Option.none_or,
      Run.endOf_readName_outer notLocal, inside.outside.value symbol outside, setting.framed.outer,
      setting.laid.outer_variable title outside, Option.or_none]
    cases Table.find? state.globals symbol.name with
    | some value => exact .results ⟨rfl, inside⟩
    | none => exact .troubles ⟨.unbound outside, inside.outside⟩

/-- A call of what a name means goes on with the evaluation of its argument. -/
theorem callOn (setting : Setting program title base own frame host) {name : String}
    (value : Value) (stands : Host.meaning? name = some value) {first : Eval σ Value}
    {second : Run.Eval σ Value} {next : Value → Eval σ α}
    {after : α → Value → State σ → Run.State σ → Prop}
    (argument : Tracks program inner first second)
    (goes : ∀ given, Simulates (Inside program inner) (next given) (host.call value [given]) after
      (Stuck program)) :
    Simulates (Inside program inner) (first >>= next) (Run.callOn host name second) after
      (Stuck program) :=
  Simulates.passSecond (fun _ _ inside => setting.reads_meaning value stands inside.outside)
    (argument.bind goes)

/-- An expression that is converted is converted on both sides. -/
theorem convert (setting : Setting program title base own frame host) (mark : Mark)
    {first : Eval σ Value} {lowered : Host.Expr}
    (tracks : Tracks program inner first (Run.evaluate host lowered.link)) :
    Tracks program inner (Scoped.convert mark first)
      (Run.evaluate host (mark.convert lowered).link) := by
  unfold Scoped.convert Mark.convert
  split
  · refine setting.callOn (.entity (.kind "float")) rfl tracks fun given => ?_
    rw [setting.framed.kind]
    exact Tracks.lift _
  · exact tracks

/-- A literal has its value. The infinity is read from its word. -/
theorem literal (setting : Setting program title base own frame host) (value : Literal) :
    Tracks program inner (Pure.pure value.toValue) (Run.evaluate host value.lower.link) := by
  cases value with
  | int value => exact Tracks.pure _
  | string value => exact Tracks.pure _
  | bool value => exact Tracks.pure _
  | float value =>
    rw [Literal.lower]
    split
    · rename_i infinite
      rw [Number.eq_infinity infinite]
      refine Simulates.passSecond (fun _ _ inside => setting.reads_meaning
        (.entity (.kind "float")) rfl inside.outside) ?_
      have reads : Run.applyKind "float" [.string "inf"] = .ok (.float Number.infinity) := by
        rw [Run.applyKind, Run.toFloat, Run.numeric?, Number.readFloat_inf]
      have word : Run.evaluate host (Host.Expr.text "inf").link = Pure.pure (.string "inf") := rfl
      rw [word, pure_bind, setting.framed.kind, reads]
      exact Tracks.lift (.ok _)
    · exact Tracks.pure _

/-- A part that a library has is there. -/
theorem requires (setting : Setting program title base own frame host) {name part : String}
    (value : Value) (stands : Host.meaning? name = some value)
    (has : Run.hasPart part value = true) {state : State σ} {after : Run.State σ}
    (outside : Outside program state after) :
    endOf (Run.requirePart host name part) after = (.ok (), after) := by
  rw [Run.requirePart, endOf_bind, setting.reads_meaning value stands outside]
  simp only [has, if_true, endOf_pure]

/-- A line is written on both sides. -/
theorem writes (setting : Setting program title base own frame host) (line : String) :
    Tracks program inner (Scoped.writeLine frame line) (Run.writeLine host line) := by
  refine Simulates.changes fun state after inside => ⟨rfl, ⟨?_, ?_, ?_⟩, ?_⟩
  · rw [setting.framed.write, Run.observing, inside.outside.values setting.laid title,
      setting.framed.running, inside.outside.world]
  · rw [setting.framed.write]
    exact inside.outside.value
  · rw [setting.framed.write]
    exact inside.outside.only
  · exact inside.locals

/-- A built-in function is called on both sides. -/
theorem builtin (setting : Setting program title base own frame host) (function : Builtin)
    {first : Eval σ Value} {second : Run.Eval σ Value}
    (argument : Tracks program inner first second) :
    Tracks program inner (first >>= Scoped.callBuiltin frame function)
      (Run.callBuiltin host function second) := by
  have text : Simulates (Inside program inner) (first >>= frame.text)
      (Run.callOn host "_lag_str" second)
      (fun text result state after => result = .string text ∧ Inside program inner state after)
      (Stuck program) :=
    setting.callOn (.entity .writing) rfl argument fun given =>
      Tracks.of_keeps fun stores locals => setting.framed.text given stores locals
  cases function with
  | print =>
    refine Simulates.passSecond (fun _ _ inside => setting.requires (.entity .journal)
      rfl rfl inside.outside) ?_
    show Tracks program inner (first >>= fun value => frame.text value >>= fun line =>
      Scoped.writeLine frame line >>= fun _ => Pure.pure Value.none)
      (Run.callOn host "_lag_str" second >>= fun result => Run.lift (Run.hostText result) >>=
        fun line => Run.writeLine host line >>= fun _ => Pure.pure Value.none)
    rw [← bind_assoc]
    refine text.bind fun line result => ?_
    rintro state after ⟨rfl, inside⟩
    have written : Tracks program inner
        (Scoped.writeLine frame line >>= fun _ => Pure.pure Value.none)
        (Run.writeLine host line >>= fun _ => Pure.pure Value.none) :=
      (setting.writes line).bind fun _ => Tracks.pure _
    exact written state after inside
  | str =>
    show Tracks program inner (first >>= fun value => frame.text value >>= fun line =>
      Pure.pure (.string line)) (Run.callOn host "_lag_str" second)
    rw [← bind_assoc, ← bind_pure (Run.callOn host "_lag_str" second)]
    refine text.bind fun line result => ?_
    rintro state after ⟨rfl, inside⟩
    exact .results ⟨rfl, inside⟩
  | len =>
    refine setting.callOn (.entity (.given "len")) rfl argument fun given => ?_
    rw [setting.framed.given]
    exact Tracks.lift _
  | sqrt =>
    refine Simulates.passSecond (fun _ _ inside => setting.requires
      (.entity (.library "math")) rfl rfl inside.outside) ?_
    exact argument.bind fun _ => Tracks.lift _
  | floor =>
    refine Simulates.passSecond (fun _ _ inside => setting.requires
      (.entity (.library "math")) rfl rfl inside.outside) ?_
    exact argument.bind fun _ => Tracks.lift _

/-- A name that the functions of a program do not have is that of none of them. -/
theorem find_none {name : String}
    (other : ∀ function ∈ program.functions, function.name ≠ name) :
    program.functions.find? (·.name == name) = none := by
  refine List.find?_eq_none.2 fun function inside => ?_
  simpa using other function inside

/-- A function is found under its name. -/
theorem find_some (laid : Laid program) {function : Function Mark}
    (inside : function ∈ program.functions) :
    program.functions.find? (·.name == function.name) = some function := by
  cases found : program.functions.find? (·.name == function.name) with
  | none => simpa using List.find?_eq_none.1 found function inside
  | some other =>
    have named := List.find?_some found
    have distinct := List.pairwise_map.2 laid.typed.functions_names
    have same := List.inj_on_of_nodup_map distinct (List.mem_of_find?_eq_some found) inside
      (beq_iff_eq.1 named)
    rw [same]

/-- An operator with both operands evaluated, or with the left one where that decides. -/
theorem binary (op : BinaryOp) (integers : Bool) {left right : Eval σ Value}
    {leftLowered rightLowered : Host.Expr}
    (leftTracks : Tracks program inner left (Run.evaluate host leftLowered))
    (rightTracks : Tracks program inner right (Run.evaluate host rightLowered)) :
    Tracks program inner
      (do
        let value ← left
        match op, Run.truth value with
        | .and, false | .or, true => return value
        | .and, true | .or, false => right
        | op, _ =>
          let other ← right
          Run.lift (Run.operate (op.lower integers) value other))
      (Run.evaluate host (.binary (op.lower integers) leftLowered rightLowered)) := by
  refine leftTracks.bind fun value => ?_
  have strict (operator : Host.Operator) : Tracks program inner
      (right >>= fun other => Run.lift (Run.operate operator value other))
      (Run.evaluate host rightLowered >>= fun other =>
        Run.lift (Run.operate operator value other)) :=
    rightTracks.bind fun _ => Tracks.lift _
  cases op with
  | and =>
    cases truth : Run.truth value with
    | false => exact Tracks.pure _
    | true => exact rightTracks
  | or =>
    cases truth : Run.truth value with
    | false => exact rightTracks
    | true => exact Tracks.pure _
  | divide =>
    cases integers with
    | false => exact strict .divide
    | true => exact strict .floorDivide
  | _ => exact strict _

/-- What is called with values gives the same. -/
theorem call (setting : Setting program title base own frame host)
    (placed : Placed base own table inner rest) {callee : Ident Mark} {symbol : Symbol}
    (found : table.lookup? callee.name = some symbol) (bound : callee.note.symbol = some symbol)
    {signature : Signature} (signed : symbol.signature = some signature)
    {arguments : Eval σ (List Value)} {lowered : List Host.Expr}
    (tracks : Tracks program inner arguments (Run.evaluateAll host (Host.Expr.linkAll lowered))) :
    Tracks program inner
      (do
        let values ← arguments
        match frame.program.functions.find? (·.name == callee.name),
          Builtin.ofName? callee.name with
        | some _, _ => frame.call callee.name values
        | none, some builtin => Scoped.callBuiltin frame builtin (values.headD .none)
        | none, none => throw (.unboundGlobal callee.name))
      (Run.evaluate host (callee.lowerCall (Host.Names.ofProgram program) lowered).link) := by
  rw [setting.framed.running]
  have nested := placed.nested setting.locals.owned
  rcases nested.calls setting.laid setting.within found signed with
    ⟨function, inside, rfl, same⟩ | ⟨builtin, rfl, same, hidden⟩
  · obtain ⟨index, there⟩ := List.mem_iff_getElem?.1 inside
    have lowers : (callee.lowerCall (Host.Names.ofProgram program) lowered).link =
        .call (hostName program (functionSymbol function)) (Host.Expr.linkAll lowered) := by
      rw [← foldText_lower bound callee.name, Ident.lowerCall, bound]
      rfl
    rw [lowers, ← same, find_some setting.laid inside]
    refine Simulates.passSecond (fun _ _ agree => setting.reads_function there agree.outside) ?_
    exact tracks.bind fun values => Tracks.of_keeps fun stores locals =>
      setting.framed.call index function there values stores locals
  · have lowers : callee.lowerCall (Host.Names.ofProgram program) lowered =
        .builtin builtin lowered := by
      have named : Builtin.ofName? builtin.symbol.name = some builtin := builtin.ofName?_name
      have kind : builtin.symbol.kind = .builtin := rfl
      rw [Ident.lowerCall, bound]
      dsimp only
      rw [kind, named]
    rw [lowers, ← same, builtin.ofName?_name, find_none (same ▸ hidden)]
    have argument : Tracks program inner (arguments >>= fun values => pure (values.headD .none))
        (Run.evaluateAll host (Host.Expr.linkAll lowered) >>= fun values =>
          pure (values.headD .none)) := tracks.bind fun _ => Tracks.pure _
    have calls := setting.builtin builtin argument
    rw [bind_assoc] at calls
    simp only [pure_bind] at calls
    exact calls

end Setting

open Setting

mutual

/-- A well typed expression has the same value on both sides. -/
theorem tracks_expr (setting : Setting program title base own frame host)
    (placed : Placed base own table inner rest) : ∀ {expr : Expr Mark} {type : Ty},
      HasType table expr type →
      Tracks program inner (evaluate frame expr) (Run.evaluate host (expr.hosted program))
  | .literal mark value _, _, _ => setting.convert mark (setting.literal value)
  | .read ident, _, .read found readable bound _ => by
    have read := setting.read placed found readable
    rw [← foldText_lower bound ident.name] at read
    exact setting.convert ident.note read
  | .unary mark .not operand, _, .not _ truth _ => by
    have inside := tracks_expr setting placed truth
    exact setting.convert mark (inside.bind fun _ => Tracks.pure _)
  | .unary mark .negate operand, _, .negate _ _ typed _ => by
    have inside := tracks_expr setting placed typed
    exact setting.convert mark (inside.bind fun _ => Tracks.lift _)
  | .binary mark op left right, _, .binary _ leftTyped _ rightTyped _ _ => by
    have first := tracks_expr setting placed leftTyped
    have second := tracks_expr setting placed rightTyped
    exact setting.convert mark (binary op (left.isInt && right.isInt) first second)
  | .call mark callee arguments, _, .call _ found bound signed fits => by
    have values := tracks_arguments setting placed fits
    exact setting.convert mark (setting.call placed found bound signed values)

/-- Well typed arguments have the same values on both sides. -/
theorem tracks_arguments (setting : Setting program title base own frame host)
    (placed : Placed base own table inner rest) : ∀ {params : List (String × Ty)}
      {arguments : List (Expr Mark)}, Arguments table params arguments →
      Tracks program inner (evaluateAll frame arguments)
        (Run.evaluateAll host (Expr.hostedAll program arguments))
  | _, [], .nil => Tracks.pure _
  | _, _ :: _, .cons fits others => by
    have first := tracks_fits setting placed fits
    have later := tracks_arguments setting placed others
    exact first.bind fun _ => later.bind fun _ => Tracks.pure _

/-- An expression that fits a place has the same value on both sides. -/
theorem tracks_fits (setting : Setting program title base own frame host)
    (placed : Placed base own table inner rest) : ∀ {place : Ty} {expr : Expr Mark},
      Fits table place expr →
      Tracks program inner (evaluate frame expr) (Run.evaluate host (expr.hosted program))
  | _, _, .same typed _ _ => tracks_expr setting placed typed
  | _, _, .widened typed _ => tracks_expr setting placed typed
  | _, _, .any typed _ _ => tracks_expr setting placed typed

end

end Lag.Scoped
