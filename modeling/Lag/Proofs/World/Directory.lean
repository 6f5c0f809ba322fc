import Lag.Proofs.World.Current

/-!
# Scripts of a directory

A directory is loaded file by file, in the order of the names. A script that loads becomes the
stored one of its identifier, and the module that was built from it becomes the active one. A script
that fails leaves what is stored and what is active as they were. So a script that is reported as
loaded is in force, unless a later one with its identifier is reported as well. Identifiers are
stems of file names, so that happens to files only whose names differ in the case of their suffixes.
-/
namespace Lag

/-- The stem and the suffix of a path make up its last step. -/
theorem Text.Path.stem_append_suffix (path : Text.Path) : path.stem ++ path.suffix = path.name := by
  unfold stem suffix
  rw [← String.ofList_append, divide_append, String.ofList_toList]

/-- The last step of a path one step further. -/
@[simp] theorem Text.Path.name_child (path : Text.Path) (step : String) :
    (path.child step).name = step := by
  unfold name child
  rw [List.getLast?_concat, Option.getD_some]

/-- The suffix of a file in Lag, with any case of its letters. -/
theorem Language.suffixOf_of_lag {path : Text.Path} (isLag : Language.ofPath? path = some .lag) :
    suffixOf path = ".lag" := by
  unfold ofPath? at isLag
  split at isLag
  · assumption
  · split at isLag <;> cases isLag

namespace Engine

/-- A script is in force: it is the stored one of its identifier, and the active module was built
from it. -/
structure InForce (engine : Engine) (script : Script) : Prop where
  /-- The script is stored. -/
  stored : engine.stored.find? script.id = some script
  /-- The program of the active module is what the script compiles to. -/
  active : ∃ module linked, engine.current script.id = some module ∧
    module.content = .lag linked ∧ World.compiled script engine.limit = .ok linked

/-- What is in force under an identifier stays. -/
structure Rests (before after : Engine) (id : String) : Prop where
  /-- The stored script stays. -/
  stored : after.stored.find? id = before.stored.find? id
  /-- The active module stays. -/
  current : after.current id = before.current id
  /-- The limit stays. -/
  limit : after.limit = before.limit

variable {language : HostLanguage} {before between after engine : Engine} {script : Script}
  {id : String}

/-- What rests twice rests. -/
theorem Rests.trans (first : before.Rests between id) (second : between.Rests after id) :
    before.Rests after id :=
  ⟨second.stored.trans first.stored, second.current.trans first.current,
    second.limit.trans first.limit⟩

/-- A script stays in force while its identifier rests. -/
theorem InForce.rests (inForce : before.InForce script) (rests : before.Rests after script.id) :
    after.InForce script := by
  obtain ⟨module, linked, current, holds, compiles⟩ := inForce.active
  exact ⟨rests.stored.trans inForce.stored, module, linked, rests.current.trans current, holds,
    by rw [rests.limit, compiles]⟩

/-! ## One load -/

namespace Performs

variable {again : Bool} {ending : Except Fault (Option Nat) × Engine}

/-- A load or a reload keeps the marks of modules. -/
theorem isMarked (performs : engine.Performs language again script ending)
    (marked : engine.IsMarked) : ending.2.IsMarked := by
  have swapped (content : Content) (globals shared : Run.Store) :
      ((engine.built again script content globals shared).publish script.id
        engine.nextVersion).IsMarked :=
    (marked_built marked content globals shared).publish (owns_built content globals shared)
  cases performs with
  | unbuilt => exact marked
  | spoilt | discarded => exact marked.insert ..
  | unready => exact marked_built marked ..
  | unsaved => exact swapped ..
  | @renewed draft _ _ _ globals shared =>
    exact (swapped draft.content globals shared).of_eq rfl rfl

/-- A load or a reload leaves other identifiers alone. -/
theorem rests_ne (performs : engine.Performs language again script ending)
    (marked : engine.IsMarked) (different : id ≠ script.id) : engine.Rests ending.2 id := by
  refine ⟨?_, performs.current_ne marked different, performs.limit⟩
  have swapped (content : Content) (globals shared : Run.Store) :
      ((engine.built again script content globals shared).publish script.id
        engine.nextVersion).stored = engine.stored :=
    (stored_publish ..).trans (stored_built content globals shared)
  cases performs with
  | unbuilt | spoilt | discarded => rfl
  | unready => exact congrArg (Table.find? · id) (stored_built ..)
  | unsaved => exact congrArg (Table.find? · id) (swapped ..)
  | renewed =>
    exact (Table.find?_put_ne _ script different).trans (congrArg (Table.find? · id) (swapped ..))

/-- A load that fails leaves its identifier alone, too. -/
theorem rests_failed (performs : engine.Performs language false script ending)
    (marked : engine.IsMarked) {fault : Fault} (fails : ending.1 = .error fault) (id : String) :
    engine.Rests ending.2 id := by
  have limit := performs.limit
  cases performs with
  | unbuilt => exact ⟨rfl, rfl, rfl⟩
  | spoilt => exact ⟨rfl, current_insert marked .., limit⟩
  | discarded isAgain => cases isAgain
  | unready =>
    exact ⟨congrArg (Table.find? · id) (stored_built ..), current_built marked .., limit⟩
  | unsaved isAgain => cases isAgain
  | renewed => cases fails

/-- A load of a script in Lag that does not fail puts it in force. -/
theorem inForce (performs : engine.Performs language false script ending)
    (marked : engine.IsMarked) (isLag : script.language = .lag) {result : Option Nat}
    (works : ending.1 = .ok result) : ending.2.InForce script := by
  have limit := performs.limit
  have renews {version : Nat} (is : ending.1 = .ok (some version)) :=
    performs.current_renewed marked is
  cases performs with
  | unbuilt | spoilt | unready => cases works
  | discarded isAgain | unsaved isAgain => cases isAgain
  | renewed =>
    obtain ⟨draft, value, globals, shared, built, -, -, current, -⟩ := renews rfl
    have compiles := Script.compile_of_draft? built
    rw [World.compile_lag language isLag, ← limit] at compiles
    cases text : World.compiled script _ with
    | error fault =>
      rw [text] at compiles
      cases compiles
    | ok linked =>
      rw [text] at compiles
      exact ⟨Table.find?_put .., _, linked, current, (Except.ok.inj compiles).symm, text⟩

end Performs

/-! ## Several loads -/

/-- What loads of several scripts do, by the scripts that are reported as loaded. -/
structure Loaded (before after : Engine) (pending loaded : List Script) : Prop where
  /-- The scripts are reported in the order of the loads. -/
  part : loaded.Sublist pending
  /-- Identifiers of which nothing is reported are left alone. -/
  rests : ∀ id, (∀ script ∈ loaded, script.id ≠ id) → before.Rests after id
  /-- The last script that is reported under an identifier is in force. -/
  inForce : ∀ earlier script later, loaded = earlier ++ script :: later →
    (∀ other ∈ later, other.id ≠ script.id) → after.InForce script
  /-- Every identifier that is reported is active. -/
  active : ∀ script ∈ loaded, (after.current script.id).isSome

namespace Loaded

variable {rest others : List Script}

/-- Nothing is loaded. -/
theorem nil (engine : Engine) : engine.Loaded engine [] [] where
  part := .slnil
  rests _ _ := ⟨rfl, rfl, rfl⟩
  inForce earlier script later is := absurd is.symm (by simp)
  active _ inside := by cases inside

/-- The first script fails. -/
theorem skip (fails : ∀ id, before.Rests between id) (loaded : between.Loaded after rest others) :
    before.Loaded after (script :: rest) others where
  part := loaded.part.cons script
  rests id apart := (fails id).trans (loaded.rests id apart)
  inForce := loaded.inForce
  active := loaded.active

/-- The first script is loaded. It stays in force unless a later one has its identifier. -/
theorem cons (spares : ∀ id, id ≠ script.id → before.Rests between id)
    (works : between.InForce script) (loaded : between.Loaded after rest others) :
    before.Loaded after (script :: rest) (script :: others) where
  part := loaded.part.cons_cons script
  rests id apart := by
    obtain ⟨first, later⟩ := List.forall_mem_cons.1 apart
    exact (spares id (Ne.symm first)).trans (loaded.rests id later)
  inForce earlier last later is apart := by
    cases earlier with
    | nil =>
      obtain ⟨rfl, rfl⟩ := List.cons.inj is
      exact works.rests (loaded.rests _ apart)
    | cons first earlier =>
      obtain ⟨-, within⟩ := List.cons.inj is
      exact loaded.inForce earlier last later within apart
  active last inside := by
    rcases List.mem_cons.1 inside with rfl | later
    · by_cases again : ∃ other ∈ others, other.id = last.id
      · obtain ⟨other, inside, same⟩ := again
        exact same ▸ loaded.active other inside
      · have apart : ∀ other ∈ others, other.id ≠ last.id := fun other inside same =>
          again ⟨other, inside, same⟩
        obtain ⟨module, -, current, -⟩ := (works.rests (loaded.rests _ apart)).active
        rw [current]
        rfl
    · exact loaded.active last later

end Loaded

end Engine

namespace World

variable {κ : Type} {hooks : Hooks κ} {world after : World κ}

/-- A result that was changed comes from one that was not. -/
theorem ok_of_map {α β : Type} {change : α → β} {act : Act κ α} {result : β}
    (returns : ended (act >>= fun given => pure (change given)) world = (.ok result, after)) :
    ∃ given, ended act world = (.ok given, after) ∧ change given = result := by
  rw [ended_bind] at returns
  revert returns
  cases ended act world with
  | mk outcome left =>
    intro returns
    cases outcome with
    | ok given =>
      cases returns
      exact ⟨given, rfl, rfl⟩
    | error fault => cases returns

/-- The first of several scripts is loaded, or left out if it fails, and then the others are. -/
theorem ended_loadAll_cons (quiet : hooks.Quiet) {script : Script} {rest loaded : List Script}
    (returns : ended (loadAll hooks (script :: rest)) world = (.ok loaded, after)) :
    ∃ between others, ended (loadAll hooks rest) between = (.ok others, after) ∧
      between.engine = (world.engine.perform hooks.language false script).2 ∧
      ((∃ result, (world.engine.perform hooks.language false script).1 = .ok result ∧
          loaded = script :: others) ∨
        ∃ fault, (world.engine.perform hooks.language false script).1 = .error fault ∧
          loaded = others) := by
  obtain ⟨gives, leaves⟩ : Ends (load hooks script) world _ := Ends.load quiet script
  rw [← gives, ← leaves]
  unfold loadAll at returns
  rw [ended_bind, ended_tryCatch, ended_bind] at returns
  revert returns
  cases ended (load hooks script) world with
  | mk outcome left =>
    intro returns
    cases outcome with
    | ok result =>
      obtain ⟨others, goes, is⟩ := ok_of_map returns
      exact ⟨left, others, goes, rfl, .inl ⟨result, rfl, is.symm⟩⟩
    | error fault =>
      dsimp only at returns
      cases survives : fault.isScriptFault with
      | true =>
        rw [survives] at returns
        obtain ⟨others, goes, is⟩ := ok_of_map returns
        exact ⟨_, others, goes, rfl, .inr ⟨fault, rfl, is.symm⟩⟩
      | false =>
        rw [survives] at returns
        cases returns

/-- Several loads leave behind what is said of them. -/
theorem loaded_loadAll (quiet : hooks.Quiet) {pending loaded : List Script}
    (marked : world.engine.IsMarked) (inLag : ∀ script ∈ pending, script.language = .lag)
    (returns : ended (loadAll hooks pending) world = (.ok loaded, after)) :
    world.engine.Loaded after.engine pending loaded := by
  induction pending generalizing world loaded with
  | nil =>
    cases returns
    exact .nil _
  | cons script rest ih =>
    obtain ⟨between, others, goes, leaves, first⟩ := ended_loadAll_cons quiet returns
    obtain ⟨isLag, areLag⟩ := List.forall_mem_cons.1 inLag
    have performs := Engine.performs hooks.language marked false script
    have later : between.engine.Loaded after.engine rest others :=
      ih (leaves ▸ performs.isMarked marked) areLag goes
    rw [leaves] at later
    rcases first with ⟨result, works, rfl⟩ | ⟨fault, fails, rfl⟩
    · exact .cons (fun id => performs.rests_ne marked) (performs.inForce marked isLag works) later
    · exact .skip (performs.rests_failed marked fails) later

end World

/-! ## The files of a directory -/

/-- A script was read from a file without an identifier of its own. -/
structure Script.IsOf (script : Script) (file : Text.Path) : Prop where
  /-- It knows the path. -/
  path : script.path = some file
  /-- The identifier is the stem. -/
  id : script.id = file.stem
  /-- The language is the one of the suffix. -/
  language : Language.ofPath? file = some script.language

/-- The name of a file in Lag is the identifier of its script, with a suffix. -/
theorem Script.IsOf.name_eq {script : Script} {directory : Text.Path} {name : String}
    (isOf : script.IsOf (directory.child name))
    (isLag : Language.ofPath? (directory.child name) = some .lag) :
    ∃ suffix, name = script.id ++ suffix ∧ Text.lowerText suffix = ".lag" := by
  refine ⟨(directory.child name).suffix, ?_, Language.suffixOf_of_lag isLag⟩
  rw [isOf.id, Text.Path.stem_append_suffix, Text.Path.name_child]

namespace World

variable {κ : Type} {hooks : Hooks κ} {world after : World κ}

/-- A script is read from a file. -/
theorem isOf_of_readScript {path : Text.Path} {script : Script}
    (reads : ended (readScript path none) world = (.ok script, after)) :
    after = world ∧ script.IsOf path := by
  unfold readScript at reads
  cases language : Language.ofPath? path with
  | none =>
    rw [language] at reads
    cases reads
  | some found =>
    rw [language] at reads
    dsimp only at reads
    rw [ended_bind, ended_get] at reads
    dsimp only at reads
    obtain ⟨code, takes, rfl⟩ := ok_of_map reads
    rw [ended_take] at takes
    obtain ⟨-, rfl⟩ := Prod.mk.inj takes
    exact ⟨rfl, rfl, rfl, language⟩

/-- Scripts are read from files in their order. -/
theorem isOf_of_readScripts {paths : List Text.Path} {scripts : List Script}
    (reads : ended (readScripts paths) world = (.ok scripts, after)) :
    after = world ∧ scripts.map Script.path = paths.map some ∧
      ∀ script ∈ scripts, ∃ path ∈ paths, script.IsOf path := by
  induction paths generalizing world scripts with
  | nil =>
    cases reads
    exact ⟨rfl, rfl, List.forall_mem_nil _⟩
  | cons path rest ih =>
    unfold readScripts at reads
    rw [ended_bind] at reads
    revert reads
    cases first : ended (readScript path none) world with
    | mk outcome left =>
      intro reads
      cases outcome with
      | error fault => cases reads
      | ok script =>
        obtain ⟨rfl, isOf⟩ := isOf_of_readScript first
        obtain ⟨others, goes, rfl⟩ := ok_of_map reads
        obtain ⟨rfl, same, later⟩ := ih goes
        refine ⟨rfl, by rw [List.map_cons, List.map_cons, isOf.path, same],
          List.forall_mem_cons.2 ⟨⟨path, List.mem_cons_self, isOf⟩, fun other inside => ?_⟩⟩
        obtain ⟨file, among, is⟩ := later other inside
        exact ⟨file, List.mem_cons_of_mem _ among, is⟩

/-- The paths of the files of a directory that are discovered, in the order of the names. -/
def discovered (files : Files) (directory : Text.Path) : List Text.Path :=
  ((files.names directory).map directory.child).filter (isDiscovered files)

/-- The scripts of a directory are read from the files that are discovered. -/
theorem ended_discover {directory : Text.Path}
    (isDirectory : world.files.isDirectory directory = .ok true) :
    ended (discover directory) world =
      ended (readScripts (discovered world.files directory) >>= fun scripts => do
        say "runtime.repository" .debug
          ("Discovered " ++ toString scripts.length ++ " script(s) in " ++ directory.toText)
        return scripts) world := by
  unfold discover
  rw [ended_bind, ended_get]
  dsimp only
  rw [ended_bind, ended_take, isDirectory]
  rfl

/-- When the scripts of a directory are read the engine stays. -/
theorem isOf_of_discover {directory : Text.Path} {scripts : List Script}
    (reads : ended (discover directory) world = (.ok scripts, after)) :
    after.engine = world.engine ∧
      scripts.map Script.path = (discovered world.files directory).map some ∧
      ∀ script ∈ scripts, ∃ path ∈ discovered world.files directory, script.IsOf path := by
  have isDirectory : world.files.isDirectory directory = .ok true := by
    unfold discover at reads
    rw [ended_bind, ended_get] at reads
    dsimp only at reads
    rw [ended_bind, ended_take] at reads
    revert reads
    cases world.files.isDirectory directory with
    | error fault =>
      intro reads
      cases reads
    | ok isDirectory =>
      cases isDirectory with
      | true => exact fun _ => rfl
      | false =>
        intro reads
        cases reads
  rw [ended_discover isDirectory, ended_bind] at reads
  revert reads
  cases found : ended (readScripts (discovered world.files directory)) world with
  | mk outcome left =>
    intro reads
    cases outcome with
    | error fault => cases reads
    | ok read =>
      obtain ⟨rfl, isOf⟩ := isOf_of_readScripts found
      cases reads
      exact ⟨rfl, isOf⟩

/-- The scripts of a directory are loaded one after the other. -/
theorem loaded_loadDirectory (quiet : hooks.Quiet) (marked : world.engine.IsMarked)
    {directory : Text.Path}
    (inLag : ∀ path ∈ discovered world.files directory, Language.ofPath? path = some .lag)
    {scripts : List Script}
    (returns : ended (loadDirectory hooks directory) world = (.ok scripts, after)) :
    ∃ pending, world.engine.Loaded after.engine pending scripts ∧
      pending.map Script.path = (discovered world.files directory).map some ∧
      ∀ script ∈ pending, ∃ path ∈ discovered world.files directory, script.IsOf path := by
  unfold loadDirectory at returns
  rw [ended_bind] at returns
  revert returns
  cases found : ended (discover directory) world with
  | mk outcome between =>
    intro returns
    cases outcome with
    | error fault => cases returns
    | ok pending =>
      obtain ⟨same, paths, isOf⟩ := isOf_of_discover found
      have areLag : ∀ script ∈ pending, script.language = .lag := by
        intro script inside
        obtain ⟨path, among, is⟩ := isOf script inside
        exact Option.some.inj (is.language.symm.trans (inLag path among))
      rw [← same] at marked ⊢
      exact ⟨pending, loaded_loadAll quiet marked areLag returns, paths, isOf⟩

/-- A directory is loaded, in an engine without modules, while nothing but the loads concerns the
engine, and every file that is discovered is in Lag. Then the scripts that are returned come from
files of the directory, each at most once. Their identifiers are active. A script that is returned
is the stored one of its identifier, and the active module was built from it, unless a script with
its identifier is returned after it. Scripts with one identifier come from files whose names are one
stem with suffixes that differ in the case of their letters only. -/
theorem directory_inForce (quiet : hooks.Quiet) {limit : Nat}
    (fresh : world.engine = { limit := limit }) {directory : Text.Path}
    (inLag : ∀ path ∈ discovered world.files directory, Language.ofPath? path = some .lag)
    {scripts : List Script}
    (returns : ended (loadDirectory hooks directory) world = (.ok scripts, after)) :
    (scripts.map Script.path).Sublist
        ((world.files.names directory).map fun name => some (directory.child name)) ∧
      (∀ script ∈ scripts, (after.engine.current script.id).isSome) ∧
      (∀ earlier script later, scripts = earlier ++ script :: later →
        (∀ other ∈ later, other.id ≠ script.id) → after.engine.InForce script) ∧
      ∀ first ∈ scripts, ∀ second ∈ scripts, first.id = second.id →
        ∃ stem suffix other, first.path = some (directory.child (stem ++ suffix)) ∧
          second.path = some (directory.child (stem ++ other)) ∧
          Text.lowerText suffix = ".lag" ∧ Text.lowerText other = ".lag" := by
  have marked : world.engine.IsMarked := by
    rw [fresh]
    exact Engine.isMarked_fresh limit
  obtain ⟨pending, loaded, paths, isOf⟩ := loaded_loadDirectory quiet marked inLag returns
  -- The name of the file of a script that is returned begins with its identifier.
  have named : ∀ script ∈ scripts, ∃ suffix,
      script.path = some (directory.child (script.id ++ suffix)) ∧
        Text.lowerText suffix = ".lag" := by
    intro script inside
    obtain ⟨path, among, is⟩ := isOf script (loaded.part.subset inside)
    obtain ⟨name, -, rfl⟩ := List.mem_map.1 (List.mem_filter.1 among).1
    obtain ⟨suffix, split, lower⟩ := is.name_eq (inLag _ among)
    exact ⟨suffix, split ▸ is.path, lower⟩
  refine ⟨?_, loaded.active, loaded.inForce, fun first inside second also same => ?_⟩
  · have part := loaded.part.map Script.path
    have names : ((discovered world.files directory).map some).Sublist
        (((world.files.names directory).map directory.child).map some) :=
      List.filter_sublist.map some
    rw [paths] at part
    rw [List.map_map] at names
    exact part.trans names
  · obtain ⟨suffix, path, lower⟩ := named first inside
    obtain ⟨other, otherPath, otherLower⟩ := named second also
    exact ⟨first.id, suffix, other, path, same ▸ otherPath, lower, otherLower⟩

/-- A result that is computed ends an operation. -/
theorem ended_of_toOption {α : Type} {act : Act κ α} {result : α}
    (gives : (ended act world).1.toOption = some result) :
    ended act world = (.ok result, (ended act world).2) := by
  revert gives
  cases ended act world with
  | mk outcome left =>
    intro gives
    cases outcome with
    | ok given => exact congrArg (fun given => (Except.ok given, left)) (Option.some.inj gives)
    | error fault => cases gives

/-- A world whose working directory holds two files. -/
def beside (first second : String × String) : World Unit :=
  let node (text : String) : FileNode := .file text.toUTF8 1
  { initial () with
    files := { nodes := [([first.1], node first.2), ([second.1], node second.2)] } }

/-- The files are discovered in the order of their names. -/
theorem discovered_beside {first second : String × String} (ordered : first.1 ≤ second.1)
    (shown : ∀ path ∈ [⟨0, [first.1]⟩, ⟨0, [second.1]⟩],
      isDiscovered (beside first second).files path = true) :
    discovered (beside first second).files ⟨0, []⟩ = [⟨0, [first.1]⟩, ⟨0, [second.1]⟩] := by
  have names : (beside first second).files.names ⟨0, []⟩ = [first.1, second.1] :=
    List.mergeSort_of_pairwise (List.pairwise_pair.2 (decide_eq_true ordered))
  rw [discovered, names]
  exact List.filter_eq_self.2 shown

/-- One of two files is loaded, and the other one fails. -/
theorem directory_inForce_beside :
    let world := beside ("bad.lag", "let x = 1 / 0;") ("good.lag", "let x = 1;")
    let good : Script := ⟨"good", .lag, "let x = 1;", some ⟨0, ["good.lag"]⟩⟩
    (∀ path ∈ discovered world.files ⟨0, []⟩, Language.ofPath? path = some .lag) ∧
      ∃ after, ended (loadDirectory Hooks.none ⟨0, []⟩) world = (.ok [good], after) ∧
        (after.engine.current "good").isSome ∧ after.engine.InForce good := by
  intro world good
  have found : discovered world.files ⟨0, []⟩ = [⟨0, ["bad.lag"]⟩, ⟨0, ["good.lag"]⟩] :=
    discovered_beside (by decide) (by decide +kernel)
  have inLag : ∀ path ∈ discovered world.files ⟨0, []⟩, Language.ofPath? path = some .lag := by
    rw [found]
    decide +kernel
  have gives : (ended (loadDirectory Hooks.none ⟨0, []⟩) world).1.toOption = some [good] := by
    rw [loadDirectory, ended_bind, ended_discover rfl, found]
    decide +kernel
  have returns := ended_of_toOption gives
  obtain ⟨-, active, inForce, -⟩ := directory_inForce (Hooks.quiet_none .none) rfl inLag returns
  exact ⟨inLag, _, returns, active good List.mem_cons_self,
    inForce [] good [] rfl (List.forall_mem_nil _)⟩

/-- Two files with one stem are loaded, and both scripts are returned. They have one identifier, and
only the second script is stored. -/
theorem directory_replaced :
    let world := beside ("a.LAG", "let x = 1;") ("a.lag", "let x = 2;")
    let first : Script := ⟨"a", .lag, "let x = 1;", some ⟨0, ["a.LAG"]⟩⟩
    let second : Script := ⟨"a", .lag, "let x = 2;", some ⟨0, ["a.lag"]⟩⟩
    (∀ path ∈ discovered world.files ⟨0, []⟩, Language.ofPath? path = some .lag) ∧
      ∃ after, ended (loadDirectory Hooks.none ⟨0, []⟩) world = (.ok [first, second], after) ∧
        first.id = second.id ∧ after.engine.stored.find? first.id = some second ∧
        first ≠ second := by
  intro world first second
  have found : discovered world.files ⟨0, []⟩ = [⟨0, ["a.LAG"]⟩, ⟨0, ["a.lag"]⟩] :=
    discovered_beside (by decide) (by decide +kernel)
  have inLag : ∀ path ∈ discovered world.files ⟨0, []⟩, Language.ofPath? path = some .lag := by
    rw [found]
    decide +kernel
  have runs : (ended (loadDirectory Hooks.none ⟨0, []⟩) world).1.toOption = some [first, second] ∧
      (ended (loadDirectory Hooks.none ⟨0, []⟩) world).2.engine.stored.find? "a" =
        some second := by
    rw [loadDirectory, ended_bind, ended_discover rfl, found]
    decide +kernel
  exact ⟨inLag, _, ended_of_toOption runs.1, rfl, runs.2, by decide⟩

end World

end Lag
