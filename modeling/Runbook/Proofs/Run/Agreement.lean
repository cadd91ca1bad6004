import Runbook.Proofs.Role.Updates
import Runbook.Proofs.Run.Asking

/-!
# What is kept is kept twice

An action keeps each value in the store of a role and in the context. However the action ends, the two
agree about all values that have been kept so far, of which the last one counts for each name, and
everything else is in both of them what it was. An action with a question that cannot be asked does
nothing at all.

Main statement: `run_agrees`.
-/

namespace Runbook
namespace Vars

open Run

/-! ## What steps write -/

/-- What steps write, up to the first one that fails or whose value cannot be kept. -/
def writtenBy
    (s : Setting)
    (role : String) :
    List (String × Run String) → World → List (String × String)
  | [], _ => []
  | (key, step) :: rest, w =>
      match result step w with
      | (.error _, _) => []
      | (.ok value, w') =>
          match result (keep s role key value) w' with
          | (.error _, _) => []
          | (.ok _, next) => (key, value) :: writtenBy s role rest next

/-- What an action writes for a role, with the answers that the context knows or that are given. -/
def written
    (v : Vars)
    (s : Setting)
    (role : String)
    (w : World) :
    List (String × String) :=
  writtenBy s role (v.stepsBy answerOf) w

section Writing

variable {s : Setting}
variable {role key : String}
variable {step : Run String}
variable {steps rest : List (String × Run String)}
variable {w left : World}
variable {exit : Except RunError Unit}

/-- Either the first step is the last one, and nothing is written, or its value is written and the others
follow. -/
theorem keepEach_cases
    (hstep : Keeps (fun w => (w.disk, w.context)) step)
    (h : result (keepEach s role ((key, step) :: rest)) w = (exit, left)) :
    (writtenBy s role ((key, step) :: rest) w = [] ∧ (∃ e, exit = .error e) ∧
        RoleStore.Ended s.store role w.disk [] left.disk ∧ left.context = w.context) ∨
      ∃ value next, s.store.update w.disk role key value = (next.disk, .ok ()) ∧
        next.context = Dict.insert w.context key (.string value) ∧
        result (keepEach s role rest) next = (exit, left) ∧
        writtenBy s role ((key, step) :: rest) w = (key, value) :: writtenBy s role rest next := by
  have hkept := hstep w
  rw [keepEach, result_bind] at h
  rw [writtenBy]
  rcases hvalue : result step w with ⟨e | value, w'⟩
  · rw [hvalue] at h hkept
    obtain ⟨hdisk, hcontext⟩ := Prod.mk.inj hkept
    cases h
    exact Or.inl ⟨rfl, ⟨e, rfl⟩, hdisk ▸ .well .start, hcontext⟩
  · rw [hvalue] at h hkept
    obtain ⟨hdisk, hcontext⟩ := Prod.mk.inj hkept
    dsimp only at h hdisk hcontext ⊢
    rw [result_bind, result_keep, hdisk] at h
    rw [result_keep, hdisk]
    rcases hupdate : s.store.update w.disk role key value with ⟨d, e | ⟨⟩⟩
    · rw [hupdate] at h
      cases h
      exact Or.inl ⟨rfl, ⟨_, rfl⟩, .badly .start hupdate, hcontext⟩
    · rw [hupdate] at h
      exact Or.inr ⟨value, _, hupdate, by rw [hcontext], h, rfl⟩

/-- The names of what is written are the first names of the steps, and all of them if the steps go well. -/
theorem names_writtenBy
    (hsteps : ∀ e ∈ steps, Keeps (fun w => (w.disk, w.context)) e.2)
    (h : result (keepEach s role steps) w = (exit, left)) :
    (writtenBy s role steps w).map Prod.fst <+: steps.map Prod.fst ∧
      (exit = .ok () → (writtenBy s role steps w).map Prod.fst = steps.map Prod.fst) := by
  induction steps generalizing w with
  | nil => exact ⟨List.prefix_refl _, fun _ => rfl⟩
  | cons e rest ih =>
      have hrest := fun e he => hsteps e (List.mem_cons_of_mem _ he)
      rcases keepEach_cases (hsteps e List.mem_cons_self) h with
        ⟨hnil, ⟨e', rfl⟩, -, -⟩ | ⟨value, next, -, -, hnext, hwritten⟩
      · rw [hnil]
        exact ⟨List.nil_prefix, fun hok => by cases hok⟩
      · obtain ⟨hfirst, hall⟩ := ih hrest hnext
        rw [hwritten, List.map_cons, List.map_cons]
        exact ⟨List.cons_prefix_cons.mpr ⟨rfl, hfirst⟩, fun hok => by rw [hall hok]⟩

/-- The store is updated with what is written, and with nothing else. -/
theorem ended_keepEach
    (hsteps : ∀ e ∈ steps, Keeps (fun w => (w.disk, w.context)) e.2)
    (h : result (keepEach s role steps) w = (exit, left)) :
    RoleStore.Ended s.store role w.disk (writtenBy s role steps w) left.disk := by
  induction steps generalizing w with
  | nil =>
      cases h
      exact .well .start
  | cons e rest ih =>
      have hrest := fun e he => hsteps e (List.mem_cons_of_mem _ he)
      rcases keepEach_cases (hsteps e List.mem_cons_self) h with
        ⟨hnil, -, hended, -⟩ | ⟨value, next, hupdate, -, hnext, hwritten⟩
      · rw [hnil]
        exact hended
      · rw [hwritten]
        exact .cons hupdate (ih hrest hnext)

/-- The context is given what is written, and nothing else. -/
theorem context_keepEach
    (hsteps : ∀ e ∈ steps, Keeps (fun w => (w.disk, w.context)) e.2)
    (h : result (keepEach s role steps) w = (exit, left)) :
    left.context =
      Dict.insertAll w.context ((writtenBy s role steps w).map (Prod.map id Json.string)) := by
  induction steps generalizing w with
  | nil =>
      cases h
      rfl
  | cons e rest ih =>
      have hrest := fun e he => hsteps e (List.mem_cons_of_mem _ he)
      rcases keepEach_cases (hsteps e List.mem_cons_self) h with
        ⟨hnil, -, -, hcontext⟩ | ⟨value, next, -, hcontext, hnext, hwritten⟩
      · rw [hnil, hcontext]
        rfl
      · rw [hwritten, ih hrest hnext, hcontext]
        rfl

end Writing

/-- Of the texts that are set for a key the last one counts. -/
theorem get?_insertAll_strings
    (c : Context)
    (entries : List (String × String))
    (key : String) :
    Dict.get? (Dict.insertAll c (entries.map (Prod.map id Json.string))) key =
      ((Dict.get? (Dict.ofList entries) key).map Json.string).or (Dict.get? c key) := by
  induction entries using List.reverseRecOn with
  | nil => rfl
  | append_singleton front e ih =>
      rw [List.map_append, List.map_singleton, Dict.insertAll_concat, Dict.ofList_concat,
        Prod.map_fst, Prod.map_snd, id_eq]
      by_cases hkey : key = e.1
      · subst hkey
        rw [Dict.get?_insert_self, Dict.get?_insert_self]
        rfl
      · rw [Dict.get?_insert_of_ne _ _ hkey, Dict.get?_insert_of_ne _ _ hkey, ih]

/-! ## The store and the context -/

/-- The store and the context agree about entries that have been written for a role, and are what they
were about everything else, if a failing update changes no file. A device keeps nothing of what is written.
A role has other variables if its file is the one that is written, or comes to light once the directory of
the store is made. -/
structure Agrees
    (s : RoleStore)
    (role : String)
    (entries : List (String × String))
    (before after : World) : Prop where
  context : ∀ key, Dict.get? after.context key =
    ((Dict.get? (Dict.ofList entries) key).map Json.string).or (Dict.get? before.context key)
  latest : s.FailsCleanly role before.disk entries after.disk → ¬ s.IsDevice after.disk role →
    ∀ key value, Dict.get? (Dict.ofList entries) key = some value →
      ∃ vars, s.load after.disk role = .ok vars ∧ Dict.get? vars key = some value
  kept : s.FailsCleanly role before.disk entries after.disk → ¬ s.IsDevice after.disk role →
    (entries = [] → ¬ s.Unveils before.disk role) →
    s.load after.disk role = (s.load before.disk role).map (Dict.insertAll · entries)
  others : ∀ role', ¬ s.Shares after.disk role role' → ¬ s.Unveils before.disk role' →
    s.load after.disk role' = s.load before.disk role'

theorem agrees_of_ended
    {s : RoleStore}
    {role : String}
    {entries : List (String × String)}
    {before after : World}
    (hended : RoleStore.Ended s role before.disk entries after.disk)
    (hcontext : after.context =
      Dict.insertAll before.context (entries.map (Prod.map id Json.string)))
    (hround : ∀ vars front, s.load before.disk role = .ok vars → front <+: entries → front ≠ [] →
      RoleStore.RoundTrips (Dict.insertAll vars front)) :
    Agrees s role entries before after where
  context := fun key => by rw [hcontext, get?_insertAll_strings]
  latest := by
    intro cleanly noDevice key value hvalue
    have hne : entries ≠ [] := by
      rintro rfl
      cases hvalue
    obtain ⟨vars, hload⟩ := hended.exists_load hne
    have hself := hended.load_self cleanly noDevice (fun hnil => absurd hnil hne) hround
    rw [hload] at hself
    refine ⟨_, hself, ?_⟩
    rw [Dict.get?_insertAll, ← Dict.get?_ofList, hvalue, Option.some_or]
  kept := fun cleanly noDevice veiled => hended.load_self cleanly noDevice veiled hround
  others := fun _ apart veiled => hended.load_other apart veiled

/-- An action with a question that cannot be asked does nothing, wherever the question stands, nor does
one whose role cannot be rendered. However any other one ends, it has written values for the first of its
names, and for all of them if it goes well, and the store and the context agree about these. What is
written must be read back as it was written, and an update that fails must not have cut the file. -/
theorem run_agrees
    {v : Vars}
    {s : Setting}
    {w left : World}
    {exit : Except RunError Outcome}
    (hrun : result (v.run s) w = (exit, left)) :
    (∀ q ∈ v.questions, isAskable q = false →
      left = w ∧ ∃ q' ∈ v.questions, isAskable q' = false ∧ exit = .error (refusal q')) ∧
    ((∀ q ∈ v.questions, isAskable q = true) →
      (∀ e, v.roleIn w.context = .error e → left = w ∧ exit = .error (.template e)) ∧
      ∀ role, v.roleIn w.context = .ok role →
        (∀ vars before, s.store.load w.disk role = .ok vars → before <+: v.written s role w →
          before ≠ [] → RoleStore.RoundTrips (Dict.insertAll vars before)) →
        (v.written s role w).map Prod.fst <+: v.keys ∧
        (∀ outcome, exit = .ok outcome → (v.written s role w).map Prod.fst = v.keys) ∧
        Agrees s.store role (v.written s role w) w left) := by
  rw [run_eq_runBy, result_runBy] at hrun
  refine ⟨fun q hq hnot => ?_, fun hall => ?_⟩
  · obtain ⟨q', hfound⟩ := Option.isSome_iff_exists.mp
      ((List.find?_isSome (p := fun q => !isAskable q)).mpr ⟨q, hq, by rw [hnot]; rfl⟩)
    have hrefused := List.find?_some hfound
    rw [hfound] at hrun
    cases hrun
    exact ⟨rfl, q', List.mem_of_find?_eq_some hfound, by simpa using hrefused, rfl⟩
  · have hnone : v.questions.find? (fun q => !isAskable q) = none :=
      List.find?_eq_none.mpr fun q hq => by simp [hall q hq]
    rw [hnone] at hrun
    dsimp only at hrun
    refine ⟨fun e hrole => ?_, fun role hrole hround => ?_⟩
    · rw [hrole] at hrun
      cases hrun
      exact ⟨rfl, rfl⟩
    · rw [hrole] at hrun
      dsimp only at hrun
      obtain ⟨done, next, hsteps, hdisk, hcontext, hdone⟩ := exists_of_conclude hrun
      have hsteady := keeps_both_stepsBy v
      obtain ⟨hfirst, hwhole⟩ := names_writtenBy hsteady hsteps
      rw [names_stepsBy] at hfirst hwhole
      have hended := ended_keepEach hsteady hsteps
      rw [← hdisk] at hended
      exact ⟨hfirst, fun outcome hok => hwhole (hdone outcome hok),
        agrees_of_ended hended (hcontext.trans (context_keepEach hsteady hsteps)) hround⟩

section Root

open RoleStore

/-- No other role has the file of the default role. -/
theorem not_shares_root :
    ¬ rootStore.Shares rootKept "" "dev" := by
  have hdev : IsRole "dev" := isRole_iff.mpr rfl
  rintro ⟨path, path', -, hpath', place, place', t, t', -, hlocate, -⟩
  rw [file_eq hdev, Except.ok.injEq] at hpath'
  subst hpath'
  obtain ⟨-, hmirrors⟩ := update_root
  obtain ⟨q, reaches⟩ := Disk.exists_reaches_of_locateFrom (isPlainName_fileName hdev) hlocate
  obtain rfl := hmirrors.into.unique reaches.into
  rw [Disk.locate, reaches.locateFrom_of_missing (hmirrors.free "dev" hdev rfl reaches)] at hlocate
  cases hlocate

/-- No other disk is left by a single update, so none that fails can have changed a file. -/
theorem failsCleanly_root :
    rootStore.FailsCleanly "" (.directory []) [("language", "java")] rootKept := by
  intro d₁ key value e before _ place c
  obtain ⟨hupdate, -⟩ := update_root
  obtain rfl : rootKept = d₁ := congrArg Prod.fst (hupdate.symm.trans before.eq_of_singleton)
  exact Iff.rfl

theorem not_unveils_root
    {role : String}
    (hrole : IsRole role) :
    ¬ rootStore.Unveils (.directory []) role := by
  rw [Unveils, Disk.ensureDirectory_eq_ok_iff.mp ensureDirectory_root, not_not]
  have hmirrors : Mirrors rootStore rootMade ["roles"] [] :=
    vacant_root.mirrors ensureDirectory_root leadsInto_root fun _ _ => rfl
  exact (hmirrors.load_eq hrole).trans (vacant_root.load_eq hrole).symm

end Root

/-- Below an empty root the language that is given stands in the store and in the context, and no other
role has it. -/
theorem run_agrees_root :
    ∃ left, result (askLanguage.run smallSetting) (answering (.directory []) [] "java") =
        (.ok .applied, left) ∧
      askLanguage.written smallSetting "" (answering (.directory []) [] "java") =
        [("language", "java")] ∧
      Dict.get? left.context "language" = some (.string "java") ∧
      (∃ vars, smallSetting.store.load left.disk "" = .ok vars ∧
        Dict.get? vars "language" = some "java") ∧
      smallSetting.store.load left.disk "dev" = .ok [] := by
  obtain ⟨hupdate, hmirrors⟩ := RoleStore.update_root
  have hstore : smallSetting.store = RoleStore.rootStore := rfl
  rw [← hstore] at hupdate
  have hwritten : askLanguage.written smallSetting "" (answering (.directory []) [] "java") =
      [("language", "java")] := by
    have hsteps : askLanguage.stepsBy answerOf = [("language", answerOf language)] := rfl
    rw [written, hsteps, writtenBy, result_answerOf_language rfl]
    dsimp only
    rw [result_keep]
    simp only [answering, hupdate]
    rfl
  obtain ⟨notes, hrun⟩ := exists_result_askLanguage (c := []) rfl hupdate
  have hround : ∀ vars before, smallSetting.store.load (.directory []) "" = .ok vars →
      before <+: askLanguage.written smallSetting "" (answering (.directory []) [] "java") →
        before ≠ [] → RoleStore.RoundTrips (Dict.insertAll vars before) := by
    intro vars before hload hfront hne
    obtain rfl : vars = [] :=
      Except.ok.inj (hload.symm.trans (RoleStore.vacant_root.load_eq RoleStore.isRole_default))
    rw [hwritten] at hfront
    obtain ⟨rest, rfl, hrest⟩ := (List.prefix_cons_iff.mp hfront).resolve_left hne
    obtain rfl := List.prefix_nil.mp hrest
    exact RoleStore.roundTrips_root
  have noDevice := hmirrors.not_isDevice RoleStore.isRole_default (List.cons_ne_nil _ _)
  obtain ⟨-, hkept⟩ := run_agrees hrun
  obtain ⟨-, hrole⟩ := hkept (by decide)
  obtain ⟨-, -, hagrees⟩ := hrole "" rfl hround
  rw [hwritten] at hagrees
  have hdev : RoleStore.IsRole "dev" := RoleStore.isRole_iff.mpr rfl
  have hother := hagrees.others "dev" not_shares_root (not_unveils_root hdev)
  refine ⟨_, hrun, hwritten, ?_, hagrees.latest failsCleanly_root noDevice "language" "java" rfl,
    hother.trans (RoleStore.vacant_root.load_eq hdev)⟩
  rw [hagrees.context "language"]
  rfl

/-! ## Where the store and the context disagree -/

/-- The file in which a role has one language. -/
def languageFile : FileTree :=
  .file (.text (Yaml.printDict [("language", "java")])) .plain

theorem load_of_languageFile
    {s : RoleStore}
    {d : Disk}
    {role path : String}
    {place : Place}
    (hpath : s.file role = .ok path)
    (h : d.locate path = .ok (.found place languageFile)) :
    s.load d role = .ok [("language", "java")] := by
  have hparse : Yaml.parseDict? (Yaml.printDict [("language", "java")]) =
      some [("language", "java")] := RoleStore.roundTrips_root
  rw [RoleStore.load, hpath, Except.bind, RoleStore.readFile, Disk.exists?_iff.mpr ⟨_, _, h⟩,
    if_pos rfl, Disk.readText_of_locate h]
  simp only [hparse]

/-- A disk on which the file of one role is a link to the file of the default role. -/
def pairedDisk (es : List (String × FileTree)) : Disk :=
  .directory [("roles", .directory (("vars-dev.yaml", .link "vars.yaml") :: es))]

theorem isNamed_varsFile :
    Disk.IsNamed "vars.yaml".toList :=
  Disk.isNamed_of_short (by decide) (by decide)

theorem isNamed_devFile :
    Disk.IsNamed "vars-dev.yaml".toList :=
  Disk.isNamed_of_short (by decide) (by decide)

section Paired

variable (es : List (String × FileTree))

theorem locate_pairedDisk :
    (pairedDisk es).locate "roles/vars.yaml" =
      (pairedDisk es).follow true Disk.maxLinks ["roles"] ["vars.yaml".toList] := by
  have hparts : Text.splitOn '/' "roles/vars.yaml".toList =
      ["roles".toList, "vars.yaml".toList] := rfl
  rw [Disk.locate, Disk.locateFrom_eq ⟨by decide, by decide⟩ (by decide), hparts,
    Disk.follow_down rfl RoleStore.isNamed_roles rfl rfl]
  rfl

theorem locate_pairedDisk_dev :
    (pairedDisk es).locate "roles/vars-dev.yaml" =
      (pairedDisk es).follow true 39 ["roles"] ["vars.yaml".toList] := by
  have hparts : Text.splitOn '/' "roles/vars-dev.yaml".toList =
      ["roles".toList, "vars-dev.yaml".toList] := rfl
  have hlinks : Disk.maxLinks = 39 + 1 := rfl
  rw [Disk.locate, Disk.locateFrom_eq ⟨by decide, by decide⟩ (by decide), hparts, hlinks,
    Disk.follow_down rfl RoleStore.isNamed_roles rfl rfl,
    Disk.follow_link rfl isNamed_devFile rfl (Or.inl rfl)]
  rfl

end Paired

theorem follow_pairedDisk_nil
    (links : Nat) :
    (pairedDisk []).follow true links ["roles"] ["vars.yaml".toList] =
      .ok (.free ["roles"] "vars.yaml" false) := by
  rw [Disk.follow_missing rfl isNamed_varsFile rfl]
  rfl

theorem follow_pairedDisk
    (links : Nat) :
    (pairedDisk [("vars.yaml", languageFile)]).follow true links ["roles"] ["vars.yaml".toList] =
      .ok (.found ["roles", "vars.yaml"] languageFile) := by
  rw [Disk.follow_down rfl isNamed_varsFile rfl rfl, Disk.follow_nil rfl]
  rfl

theorem update_pairedDisk :
    smallSetting.store.update (pairedDisk []) "" "language" "java" =
      (pairedDisk [("vars.yaml", languageFile)], .ok ()) := by
  have hlocate := (locate_pairedDisk []).trans (follow_pairedDisk_nil _)
  have hslash : Disk.isSlashed "roles/vars.yaml" = false := by decide
  have hwrite : (pairedDisk []).overwrite "roles/vars.yaml"
      (.text (Yaml.printDict [("language", "java")])) =
        (pairedDisk [("vars.yaml", languageFile)], .ok ()) := by
    unfold Disk.overwrite
    rw [hslash, if_neg Bool.false_ne_true, hlocate]
    rfl
  have hread : RoleStore.readFile (pairedDisk []) "roles/vars.yaml" = .ok [] := by
    unfold RoleStore.readFile Disk.exists? Disk.tree?
    rw [hlocate]
    rfl
  have hready : (pairedDisk []).provideDirectory "roles" = (pairedDisk [], .ok ()) :=
    Disk.provideDirectory_of_enters ⟨by decide, by decide⟩
      (.down rfl RoleStore.isNamed_roles (.done rfl))
  have hfile : smallSetting.store.file "" = .ok "roles/vars.yaml" := rfl
  have hdirectory : smallSetting.store.directory = "roles" := rfl
  have hinsert : Dict.insert [] "language" "java" = [("language", "java")] := rfl
  simp only [RoleStore.update, hfile, hread, RoleStore.writeFile, hdirectory, hready, hinsert, hwrite]

theorem load_pairedDisk_dev :
    smallSetting.store.load (pairedDisk []) "dev" = .ok [] := by
  have hlocate := (locate_pairedDisk_dev []).trans (follow_pairedDisk_nil _)
  have hload : smallSetting.store.load (pairedDisk []) "dev" =
      RoleStore.readFile (pairedDisk []) "roles/vars-dev.yaml" := rfl
  rw [hload, RoleStore.readFile, Disk.exists?, Disk.tree?, hlocate]
  rfl

/-- A setting whose store leads through a directory that need not be there. -/
def detour : Setting :=
  { smallSetting with rolesDirectory := "new/.." }

/-- A disk with the file of one role, and a directory where the default role would have its own. -/
def veiledDisk (es : List (String × FileTree)) : Disk :=
  .directory (es ++ [("vars-dev.yaml", languageFile), ("vars.yaml", .directory [])])

theorem isNamed_new :
    Disk.IsNamed "new".toList :=
  Disk.isNamed_of_short (by decide) (by decide)

/-- As long as the directory is not there, no role has variables. -/
theorem load_veiledDisk
    {role : String}
    (hrole : RoleStore.IsRole role) :
    detour.store.load (veiledDisk []) role = .ok [] := by
  have hload : detour.store.load (veiledDisk []) role =
      RoleStore.readFile (veiledDisk []) (Path.join "new/.." (RoleStore.fileName role)) := by
    rw [RoleStore.load, RoleStore.file_eq hrole]
    rfl
  have habsent : (veiledDisk []).exists? (Path.join "new/.." (RoleStore.fileName role)) = false := by
    by_contra hexists
    obtain ⟨place, t, hlocate⟩ := Disk.exists?_iff.mp (by simpa using hexists)
    obtain ⟨q, reaches⟩ :=
      Disk.exists_reaches_of_locateFrom (RoleStore.isPlainName_fileName hrole) hlocate
    obtain ⟨left, hwalk⟩ := reaches.into
    obtain ⟨es, hfollow⟩ := hwalk.follow_eq
    have hparts : Text.splitOn '/' "new/..".toList = ["new".toList, ['.', '.']] := rfl
    rw [hparts, Disk.follow_missing rfl isNamed_new rfl] at hfollow
    cases hfollow
  rw [hload, RoleStore.readFile, habsent]
  rfl

/-- Making the directory is all that it takes to get there. -/
theorem provideDirectory_veiledDisk :
    (veiledDisk []).provideDirectory "new/.." = (veiledDisk [("new", .directory [])], .ok ()) := by
  have hparts : Text.splitOn '/' "new/..".toList = ["new".toList, ['.', '.']] := rfl
  have hnew : (veiledDisk []).makeDirectory "new" = .ok (veiledDisk [("new", .directory [])]) := by
    have hbare : Disk.bare "new" = "new" := by decide
    have hone : Text.splitOn '/' "new".toList = ["new".toList] := rfl
    rw [Disk.makeDirectory, hbare, Disk.locateEntry,
      Disk.locateFrom_eq ⟨by decide, by decide⟩ (by decide), hone,
      Disk.follow_missing rfl isNamed_new rfl]
    rfl
  have hbare : Disk.bare "new/.." = "new/.." := by decide
  have hmissing : (veiledDisk []).makeDirectory "new/.." = .error .noEntry := by
    rw [Disk.makeDirectory, hbare, Disk.locateEntry,
      Disk.locateFrom_eq ⟨by decide, by decide⟩ (by decide), hparts,
      Disk.follow_missing rfl isNamed_new rfl]
    rfl
  have hback (final : Bool) : (veiledDisk [("new", .directory [])]).locateFrom [] final "new/.." =
      .ok (.found [] (veiledDisk [("new", .directory [])])) := by
    rw [Disk.locateFrom_eq ⟨by decide, by decide⟩ (by decide), hparts,
      Disk.follow_down rfl isNamed_new rfl rfl, Disk.follow_up rfl, Disk.follow_nil rfl]
    rfl
  have htaken : (veiledDisk [("new", .directory [])]).makeDirectory "new/.." = .error .taken := by
    rw [Disk.makeDirectory, hbare, Disk.locateEntry, hback]
  have hdirectory : (veiledDisk [("new", .directory [])]).isDirectory "new/.." = true := by
    rw [Disk.isDirectory, Disk.tree?, Disk.locate, hback]
    rfl
  have hempty : "new/..".isEmpty = false := by decide
  have hlength : "new/..".length = 6 := rfl
  have hparent : Path.parent? "new/.." = some "new" := by decide
  simp only [Disk.provideDirectory, hempty, hlength, Disk.makeDirectories, hmissing, hparent, hnew,
    Disk.settleDirectory, htaken, hdirectory, if_true, Bool.false_eq_true, if_false]

/-- With the directory the files of roles are there. -/
theorem locate_veiledDisk :
    (veiledDisk [("new", .directory [])]).locate "new/../vars.yaml" =
      .ok (.found ["vars.yaml"] (.directory [])) := by
  have hparts : Text.splitOn '/' "new/../vars.yaml".toList =
      ["new".toList, ['.', '.'], "vars.yaml".toList] := rfl
  rw [Disk.locate, Disk.locateFrom_eq ⟨by decide, by decide⟩ (by decide), hparts,
    Disk.follow_down rfl isNamed_new rfl rfl, Disk.follow_up rfl,
    Disk.follow_down rfl isNamed_varsFile rfl rfl, Disk.follow_nil rfl]
  rfl

theorem locate_veiledDisk_dev :
    (veiledDisk [("new", .directory [])]).locate "new/../vars-dev.yaml" =
      .ok (.found ["vars-dev.yaml"] languageFile) := by
  have hparts : Text.splitOn '/' "new/../vars-dev.yaml".toList =
      ["new".toList, ['.', '.'], "vars-dev.yaml".toList] := rfl
  rw [Disk.locate, Disk.locateFrom_eq ⟨by decide, by decide⟩ (by decide), hparts,
    Disk.follow_down rfl isNamed_new rfl rfl, Disk.follow_up rfl,
    Disk.follow_down rfl isNamed_devFile rfl rfl, Disk.follow_nil rfl]
  rfl

theorem load_veiledDisk_made :
    detour.store.load (veiledDisk [("new", .directory [])]) "" =
      .error (.file "new/../vars.yaml" .isDirectory) := by
  have hload : detour.store.load (veiledDisk [("new", .directory [])]) "" =
      RoleStore.readFile (veiledDisk [("new", .directory [])]) "new/../vars.yaml" := rfl
  rw [hload, RoleStore.readFile, Disk.exists?_iff.mpr ⟨_, _, locate_veiledDisk⟩, if_pos rfl,
    Disk.readText, Disk.read, Disk.tree?, locate_veiledDisk]

/-- The update that makes the directory fails, since the file of the default role is a directory. -/
theorem update_veiledDisk :
    detour.store.update (veiledDisk []) "" "language" "java" =
      (veiledDisk [("new", .directory [])],
        .error (.file "new/../vars.yaml" .isDirectory)) := by
  have hslash : Disk.isSlashed "new/../vars.yaml" = false := by decide
  have hwrite (c : Content) : (veiledDisk [("new", .directory [])]).overwrite "new/../vars.yaml" c =
      (veiledDisk [("new", .directory [])], .error .isDirectory) := by
    unfold Disk.overwrite
    rw [hslash, if_neg Bool.false_ne_true, locate_veiledDisk]
  have hread : RoleStore.readFile (veiledDisk []) "new/../vars.yaml" = .ok [] :=
    load_veiledDisk RoleStore.isRole_default
  have hfile : detour.store.file "" = .ok "new/../vars.yaml" := rfl
  have hdirectory : detour.store.directory = "new/.." := rfl
  simp only [RoleStore.update, hfile, hread, RoleStore.writeFile, hdirectory,
    provideDirectory_veiledDisk, hwrite]

/-- When the answer cannot be kept, the context does not get it either. -/
theorem exists_result_askLanguage_failed
    {s : Setting}
    {d d' : Disk}
    {c : Context}
    {e : StoreError}
    (hc : Dict.get? c "language" = none)
    {answer : String}
    (hupdate : s.store.update d "" "language" answer = (d', .error e)) :
    ∃ left, result (askLanguage.run s) (answering d c answer) = (.error (.store e), left) ∧
      left.disk = d' := by
  have hsteps : askLanguage.stepsBy answerOf = [("language", answerOf language)] := rfl
  have hkept : ∃ left, result (keepEach s "" (askLanguage.stepsBy answerOf)) (answering d c answer) =
      (.error (.store e), left) ∧ left.disk = d' := by
    rw [hsteps, keepEach, result_bind, result_answerOf_language hc]
    simp only [result_bind, result_keep, answering, hupdate]
    exact ⟨_, rfl, rfl⟩
  obtain ⟨left, hleft, hdisk⟩ := hkept
  refine ⟨left, ?_, hdisk⟩
  rw [run_eq_runBy, result_runBy, find?_askLanguage, roleIn_askLanguage]
  dsimp only
  rw [result_bind, hleft]

/-- A device keeps no answer that the context has. A role whose file is a link to the file of another one
has its answers. And a directory that is made for the store can bring the files of roles to light, although
no file changes, even if the answer then cannot be kept. -/
theorem exists_disagreement :
    (∃ left, result (askLanguage.run smallSetting) (answering voidDisk [] "java") =
        (.ok .applied, left) ∧
      RoleStore.RoundTrips [("language", "java")] ∧
      Dict.get? left.context "language" = some (.string "java") ∧
      smallSetting.store.load left.disk "" = .ok []) ∧
    (∃ left, result (askLanguage.run smallSetting) (answering (pairedDisk []) [] "java") =
        (.ok .applied, left) ∧
      smallSetting.store.load (pairedDisk []) "dev" = .ok [] ∧
      smallSetting.store.load left.disk "dev" = .ok [("language", "java")]) ∧
    ∃ left e, result (askLanguage.run detour) (answering (veiledDisk []) [] "java") =
        (.error (.store e), left) ∧
      (∀ place c, left.disk.HasFile place c ↔ (veiledDisk []).HasFile place c) ∧
      (∀ role, RoleStore.IsRole role → detour.store.load (veiledDisk []) role = .ok []) ∧
      detour.store.load left.disk "" = .error (.file "new/../vars.yaml" .isDirectory) ∧
      detour.store.load left.disk "dev" = .ok [("language", "java")] := by
  refine ⟨?_, ?_, ?_⟩
  · obtain ⟨notes, hrun⟩ := exists_result_askLanguage (c := []) rfl (update_voidDisk "java")
    exact ⟨_, hrun, RoleStore.roundTrips_root, rfl, load_voidDisk⟩
  · obtain ⟨notes, hrun⟩ := exists_result_askLanguage (c := []) rfl update_pairedDisk
    exact ⟨_, hrun, load_pairedDisk_dev, load_of_languageFile rfl
      ((locate_pairedDisk_dev _).trans (follow_pairedDisk _))⟩
  · obtain ⟨left, hrun, hdisk⟩ := exists_result_askLanguage_failed (c := []) rfl update_veiledDisk
    refine ⟨left, _, hrun, ?_, fun role => load_veiledDisk, ?_, ?_⟩
    · rw [hdisk]
      intro place c
      have hfiles := Disk.hasFile_provideDirectory (veiledDisk []) "new/.." place c
      rw [provideDirectory_veiledDisk] at hfiles
      exact hfiles
    · rw [hdisk]
      exact load_veiledDisk_made
    · rw [hdisk]
      exact load_of_languageFile rfl locate_veiledDisk_dev

end Vars
end Runbook
