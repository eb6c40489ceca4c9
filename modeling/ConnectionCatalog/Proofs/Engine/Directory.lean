import ConnectionCatalog.Engine.Basic
import ConnectionCatalog.Proofs.Files.Ways

/-! # Proofs.Engine.Directory — the directory that is made for a database

Building an engine makes a directory for the file of its database, and finds the place for it from
the name that the URL gives.  A connection opens a file later, and finds the place from what the
driver is told.  The two places are not always the same: a tilde is a home only for the first, and
a URI is one only for the second.

* `prepare_ok_iff`: when the directory can be made, and what is left.
* `connect_ok_iff`: what a connection needs, the directory of its file apart.
* `directory_made_for_database`: which directories are made, and when the file that is opened has
  one; `tilde_not_prepared` is a name for which it has none.
-/

namespace ConnectionCatalog

open Files (Path Route Tree passed endOf)

namespace Engine

variable {name : String} {site site' : Site} {route : Route} {tree : Tree}

/-! ## Preparing a place -/

/-- Whether a name holds the character that no path may hold. -/
def holdsNull (name : String) : Bool := name.toList.contains '\x00'

theorem prepare_run (name : String) (site : Site) :
    (prepare name).run site =
      match (Route.ofText name).expanded? site.home with
      | none =>
        (.error (.path (if holdsNull ((Route.ofText name).names.headD "") then .holdsNull
          else .unknownHome)), site)
      | some route =>
        if route.parent.names.any holdsNull then (.error (.path .holdsNull), site)
        else if route.parent.isLong then (.error (.path (.blocked .tooLong)), site)
        else
          match site.tree.makeDirectories (route.start site.working) route.parent.names with
          | (tree, some obstacle) => (.error (.path (.blocked obstacle)), { site with tree })
          | (tree, none) => (.ok (), { site with tree }) := by
  have hnull : (fun n : String => n.toList.contains '\x00') = holdsNull := rfl
  unfold prepare
  rw [Access.run_bind_ok (Access.run_get site)]
  simp only [hnull]
  cases (Route.ofText name).expanded? site.home with
  | none => rfl
  | some route =>
    dsimp only
    by_cases hheld : route.parent.names.any holdsNull = true
    · rw [if_pos hheld, if_pos hheld]
      rfl
    rw [if_neg hheld, if_neg hheld]
    by_cases hlong : route.parent.isLong = true
    · rw [if_pos hlong, if_pos hlong]
      rfl
    rw [if_neg hlong, if_neg hlong]
    rcases site.tree.makeDirectories (route.start site.working) route.parent.names with
      ⟨tree, _ | obstacle⟩ <;> rfl

/-- The directory for a file of a name can be made; the route there, and the tree that is left. -/
structure Prepares (name : String) (site : Site) (route : Route) (tree : Tree) : Prop where
  expands : (Route.ofText name).expanded? site.home = some route
  plain : route.parent.names.any holdsNull = false
  short : route.parent.isLong = false
  made : site.tree.makeDirectories (route.start site.working) route.parent.names = (tree, none)

theorem prepare_ok_iff :
    (prepare name).run site = (.ok (), site') ↔
      ∃ route tree, Prepares name site route tree ∧ site' = { site with tree } := by
  rw [prepare_run]
  constructor
  · intro h
    cases hroute : (Route.ofText name).expanded? site.home with
    | none =>
      rw [hroute] at h
      cases h
    | some route =>
      rw [hroute] at h
      dsimp only at h
      split at h
      · cases h
      rename_i hheld
      split at h
      · cases h
      rename_i hlong
      split at h
      · cases h
      · rename_i tree hmade
        exact ⟨route, tree, ⟨hroute, by simpa using hheld, by simpa using hlong, hmade⟩,
          (Prod.mk.inj h).2.symm⟩
  · rintro ⟨route, tree, h, rfl⟩
    simp only [h.expands, h.plain, h.short, h.made, Bool.false_eq_true, if_false]

/-- The working directory is one, so the start of every route is. -/
theorem isDirectory_start (h : site.tree.isDirectory site.working = true) (r : Route) :
    site.tree.kindAt? (r.start site.working) = some .directory := by
  unfold Route.start
  split
  · exact site.tree.kindAt?_nil
  · simpa [Tree.isDirectory] using h

theorem Prepares.made_on_way (h : Prepares name site route tree)
    (hworking : site.tree.isDirectory site.working = true) :
    Tree.Made site.tree (route.start site.working) route.parent.names tree :=
  Tree.makeDirectories_ok (isDirectory_start hworking route) h.made

/-- Once the directory is made, preparing finds it. -/
theorem Prepares.again (h : Prepares name site route tree)
    (hworking : site.tree.isDirectory site.working = true) :
    Prepares name { site with tree } route tree where
  expands := h.expands
  plain := h.plain
  short := h.short
  made := (h.made_on_way hworking).again

/-! ## Building -/

theorem run_ofUrl {α : Type} (r : Except UrlFault α) (site : Site) :
    (ofUrl r).run site = (r.mapError .url, site) := by
  cases r <;> rfl

theorem build_run {s : Settings} {u : DatabaseUrl}
    (hu : DatabaseUrl.ofText s.databaseUrl = .ok u) (site : Site) :
    (build s).run site =
      if u.isSqlite && u.namesNoFile then ((make u .single s.dbEcho false).mapError .url, site)
      else if u.isSqlite then
        match (prepare (u.database?.getD "")).run site with
        | (.ok (), site') => ((make u u.pool s.dbEcho s.dbPoolPrePing).mapError .url, site')
        | (.error f, site') => (.error f, site')
      else ((make u u.pool s.dbEcho s.dbPoolPrePing).mapError .url, site) := by
  unfold build
  rw [Access.run_bind_ok (by rw [hu, run_ofUrl]; rfl)]
  by_cases hnone : (u.isSqlite && u.namesNoFile) = true
  · rw [if_pos hnone, if_pos hnone, run_ofUrl]
  rw [if_neg hnone, if_neg hnone]
  by_cases hsqlite : u.isSqlite = true
  · rw [if_pos hsqlite, if_pos hsqlite]
    rcases hprepare : (prepare (u.database?.getD "")).run site with ⟨_ | _, site'⟩
    · rw [Access.run_bind_error hprepare]
    · rw [Access.run_bind_ok hprepare, run_ofUrl]
  · rw [if_neg hsqlite, if_neg hsqlite]
    exact run_ofUrl _ _

/-- For a database in a file the directory is made first, and then the engine. -/
theorem build_ok_iff {s : Settings} {u : DatabaseUrl}
    (hu : DatabaseUrl.ofText s.databaseUrl = .ok u) (hsqlite : u.isSqlite = true)
    (hfile : u.namesNoFile = false) {e : Engine} :
    (build s).run site = (.ok e, site') ↔
      ∃ route tree, Prepares (u.database?.getD "") site route tree ∧ site' = { site with tree } ∧
        make u u.pool s.dbEcho s.dbPoolPrePing = .ok e := by
  have hnot : ¬(u.isSqlite && u.namesNoFile) = true := by simp [hfile]
  rw [build_run hu, if_neg hnot, if_pos hsqlite]
  constructor
  · intro h
    -- nothing is made if the directory cannot be
    rcases hprepare : (prepare (u.database?.getD "")).run site with ⟨_ | _, left⟩
    · rw [hprepare] at h
      cases h
    · rw [hprepare] at h
      obtain ⟨route, tree, hprepares, rfl⟩ := prepare_ok_iff.1 hprepare
      obtain ⟨hmade, rfl⟩ := Prod.mk.inj h
      cases hmake : make u u.pool s.dbEcho s.dbPoolPrePing with
      | error fault =>
        rw [hmake] at hmade
        cases hmade
      | ok e' =>
        rw [hmake] at hmade
        exact ⟨route, tree, hprepares, rfl, congrArg Except.ok (Except.ok.inj hmade)⟩
  · rintro ⟨route, tree, hprepares, rfl, hmake⟩
    rw [prepare_ok_iff.2 ⟨route, tree, hprepares, rfl⟩, hmake]
    rfl

theorem make_ok {u : DatabaseUrl} {pool : Pool} {echo prePing : Bool} {e : Engine}
    (h : make u pool echo prePing = .ok e) : u.source e.options.uri = .ok e.source := by
  unfold make at h
  split at h
  · cases h
  · cases h
  · split at h
    · cases h
    -- the source is named only after the options of the driver were read
    · cases hoptions : DriverOptions.ofUrl u with
      | error fault => simp [hoptions, bind, Except.bind] at h
      | ok options =>
        cases hsource : u.source options.uri with
        | error fault => simp [hoptions, hsource, bind, Except.bind] at h
        | ok source =>
          simp only [hoptions, hsource, bind, Except.bind, pure, Except.pure, Except.ok.injEq] at h
          rw [← h, hsource]

/-! ## Connecting -/

/-- What opening a file needs besides a directory for it: a path that is not too long, the
permissions to copy, and a file in the place, or none where one may be made. -/
structure Opens (site : Site) (path : Path) (mode : FileMode) (permissions? : Option Route) :
    Prop where
  openable : Files.isOpenable path = true
  permissions : permissions?.any (fun r =>
    (site.tree.followed? (r.start site.working) r.names).isNone) = false
  place : site.tree.kindAt? path = some .file ∨
    site.tree.kindAt? path = none ∧ mode = .asNeeded

theorem openTarget_ok_iff {path : Path} {mode : FileMode} {permissions? : Option Route} :
    (∃ tree, site.tree.openTarget site.working (.file path mode permissions?) = .ok tree) ↔
      site.tree.isDirectory path.dropLast = true ∧ Opens site path mode permissions? := by
  rw [Tree.openTarget]
  by_cases hopenable : Files.isOpenable path = true
  case neg =>
    rw [if_pos (by simpa using hopenable)]
    exact ⟨fun ⟨_, h⟩ => (nomatch h), fun ⟨_, h⟩ => absurd h.openable hopenable⟩
  rw [if_neg (by simpa using hopenable)]
  by_cases hpermissions : permissions?.any (fun r =>
    (site.tree.followed? (r.start site.working) r.names).isNone) = true
  case pos =>
    rw [if_pos hpermissions]
    exact ⟨fun ⟨_, h⟩ => (nomatch h), fun ⟨_, h⟩ => absurd hpermissions (by simp [h.permissions])⟩
  rw [if_neg hpermissions]
  have hallowed := Bool.eq_false_iff.2 hpermissions
  cases hkind : site.tree.kindAt? path with
  | some entry =>
    -- something stands in the place, so there is a directory around it
    have habove : site.tree.isDirectory path.dropLast = true := by
      simp [Tree.isDirectory, Tree.kindAt?_dropLast hkind]
    cases entry with
    | file => exact ⟨fun _ => ⟨habove, hopenable, hallowed, .inl hkind⟩, fun _ => ⟨_, rfl⟩⟩
    | directory =>
      refine ⟨fun ⟨_, h⟩ => (nomatch h), fun ⟨_, h⟩ => ?_⟩
      rcases h.place with hplace | ⟨hplace, -⟩ <;> simp [hkind] at hplace
  | none =>
    by_cases hlacks : (mode ≠ .asNeeded || !site.tree.isDirectory path.dropLast) = true
    · rw [if_pos hlacks]
      refine ⟨fun ⟨_, h⟩ => (nomatch h), fun ⟨hdir, h⟩ => ?_⟩
      rcases h.place with hplace | ⟨-, hmode⟩
      · simp [hkind] at hplace
      · simp [hmode, hdir] at hlacks
    · rw [if_neg hlacks]
      have hboth : mode = .asNeeded ∧ site.tree.isDirectory path.dropLast = true := by
        simpa using hlacks
      exact ⟨fun _ => ⟨hboth.2, hopenable, hallowed, .inr ⟨hkind, hboth.1⟩⟩, fun _ => ⟨_, rfl⟩⟩

/-- A connection to a file succeeds just if the driver takes the options, there is a directory for
the file, and all else is there. -/
theorem connect_ok_iff {e : Engine} {path : Path} {mode : FileMode} {permissions? : Option Route}
    (htarget : e.target site.working = .ok (.file path mode permissions?)) :
    ((connect e).run site).1 = .ok () ↔
      e.options.check = .ok () ∧ site.tree.isDirectory path.dropLast = true ∧
        Opens site path mode permissions? := by
  rw [← openTarget_ok_iff, connect]
  -- the options are looked at before the file
  cases e.options.check with
  | error fault =>
    rw [Access.run_bind_error (run_ofUrl _ _)]
    simp
  | ok _ =>
    rw [Access.run_bind_ok (run_ofUrl _ _), Access.run_bind_ok (Access.run_get site), htarget,
      Access.run_bind_ok (Access.run_ofExcept _ site)]
    cases site.tree.openTarget site.working (.file path mode permissions?) with
    | error fault => exact ⟨fun h => (nomatch h), fun ⟨_, _, h⟩ => (nomatch h)⟩
    | ok tree => exact ⟨fun _ => ⟨rfl, tree, rfl⟩, fun _ => rfl⟩

/-! ## The directory of the database -/

/-- Without URIs a database in a file is opened by its name, letter by letter. -/
theorem target_of_plain {u : DatabaseUrl} {e : Engine} {working : Path} {target : Target}
    (hfile : u.namesNoFile = false) (huri : e.options.uri = false)
    (hsource : u.source e.options.uri = .ok e.source) (h : e.target working = .ok target) :
    target = .file ((Route.ofText (u.database?.getD "")).place working) .asNeeded none := by
  have hname : e.source = .name (u.database?.getD "") := by
    simpa [DatabaseUrl.source, huri, hfile] using hsource.symm
  have hneither : u.database?.getD "" ≠ ":memory:" ∧ u.database?.getD "" ≠ "" := by
    unfold DatabaseUrl.namesNoFile at hfile
    cases hdatabase : u.database? with
    | none => simp [hdatabase] at hfile
    | some name =>
      rw [hdatabase] at hfile
      simpa [and_comm] using hfile
  rw [Engine.target, hname] at h
  simp only [Target.ofName, hneither.1, hneither.2, if_false] at h
  split at h
  · cases h
  · exact (Except.ok.inj h).symm

/-- Building an engine makes the directories on the way to the parent of the place that the database
is named by, with a tilde for the home of the user, and changes nothing else; building it again
changes nothing more.  For a URL that names no file of SQLite nothing changes at all.

A connection opens the place that the URL means to the driver.  The directory for it exists just if
it did before or lies on that way, and for lack of it alone the connection fails.  It lies there where
URIs are not understood and the name does not start with a tilde; then only places above the file are
made, if no two dots lead up again on the way. -/
theorem directory_made_for_database (s : Settings) (site : Site)
    (hworking : site.tree.isDirectory site.working = true) {u : DatabaseUrl}
    (hu : DatabaseUrl.ofText s.databaseUrl = .ok u) :
    (u.isSqlite = false ∨ u.namesNoFile = true → ((build s).run site).2 = site) ∧
    ∀ e site', u.isSqlite = true → u.namesNoFile = false → (build s).run site = (.ok e, site') →
      ∃ route, (Route.ofText (u.database?.getD "")).expanded? site.home = some route ∧
        let way := passed (route.start site.working) route.parent.names
        site' = { site with tree := site'.tree } ∧
        (∀ p, site'.tree.kindAt? p = if p ∈ way then some .directory else site.tree.kindAt? p) ∧
        (∀ p ∈ way, site.tree.kindAt? p ≠ some .file) ∧
        (build s).run site' = (.ok e, site') ∧
        ∀ path mode permissions?, e.target site.working = .ok (.file path mode permissions?) →
          (((connect e).run site').1 = .ok () ↔
            e.options.check = .ok () ∧ site'.tree.isDirectory path.dropLast = true ∧
              Opens site' path mode permissions?) ∧
          (site'.tree.isDirectory path.dropLast = true ↔
            path.dropLast ∈ way ∨ site.tree.isDirectory path.dropLast = true) ∧
          (e.options.uri = false → (Route.ofText (u.database?.getD "")).startsAtHome = false →
            site'.tree.isDirectory path.dropLast = true ∧
            ((∀ name ∈ route.names, name ≠ "..") → ∀ p ∈ way, p <+: path.dropLast)) := by
  refine ⟨fun hother => ?_, fun e site' hsqlite hfile hbuild => ?_⟩
  · rw [build_run hu]
    -- a database that is no file leaves the tree alone
    rcases hother with hother | hother
    · simp [hother]
    · rw [hother]
      cases u.isSqlite <;> simp
  obtain ⟨route, tree, hprepares, rfl, hmake⟩ := (build_ok_iff hu hsqlite hfile).1 hbuild
  have hmade := hprepares.made_on_way hworking
  refine ⟨route, hprepares.expands, rfl, hmade.kinds, hmade.free, ?_, ?_⟩
  · exact (build_ok_iff hu hsqlite hfile).2 ⟨route, tree, hprepares.again hworking, rfl, hmake⟩
  · intro path mode permissions? htarget
    refine ⟨connect_ok_iff htarget, ?_, fun huri hhome => ?_⟩
    · simp only [Tree.isDirectory, hmade.kinds, decide_eq_true_eq]
      -- the directory is on the way that was made, or stands as it did before
      by_cases hway : path.dropLast ∈ passed (route.start site.working) route.parent.names
      · simp [hway]
      · simp [hway]
    · have hroute : Route.ofText (u.database?.getD "") = route := by
        simpa [Route.expanded?, hhome] using hprepares.expands
      have hplace : path = endOf (route.start site.working) route.names := by
        have hplain := target_of_plain hfile huri (make_ok hmake) htarget
        rw [hroute] at hplain
        exact (Target.file.inj hplain).1
      rw [hplace]
      refine ⟨?_, fun hdown p hp => Files.prefix_endOf_dropLast hdown hp⟩
      simpa [Tree.isDirectory] using
        hmade.kindAt?_endOf_dropLast (isDirectory_start hworking route)

/-- An empty root directory as the place where a program runs, with a home that is not there. -/
def bareSite : Site := ⟨.empty, [], ["home"]⟩

/-- The settings that hold where none are given lead to a database that can be opened. -/
theorem defaults_prepared : ∃ e site', (build .defaults).run bareSite = (.ok e, site') ∧
    site'.tree.isDirectory ["data"] = true ∧ (build .defaults).run site' = (.ok e, site') ∧
    ((connect e).run site').1 = .ok () := by
  have hurl : DatabaseUrl.ofText Settings.defaults.databaseUrl =
      .ok ⟨"sqlite", none, none, none, none, some "./data/wrangler.db", []⟩ := rfl
  obtain ⟨-, hmade⟩ := directory_made_for_database .defaults bareSite rfl hurl
  have hbuild : (build .defaults).run bareSite =
      (.ok ⟨⟨"sqlite", none, none, none, none, some "./data/wrangler.db", []⟩,
        ⟨false, false, 0, 128⟩, .name "./data/wrangler.db", .queued, false, true⟩,
        ⟨.directory "data" .empty .empty, [], ["home"]⟩) := rfl
  obtain ⟨route, -, -, -, -, hagain, hopens⟩ := hmade _ _ (by decide) (by decide) hbuild
  obtain ⟨hconnect, -, hplain⟩ := hopens ["data", "wrangler.db"] .asNeeded none rfl
  have hdirectory := (hplain rfl (by decide)).1
  exact ⟨_, _, hbuild, hdirectory, hagain,
    hconnect.2 ⟨rfl, hdirectory, ⟨by decide, rfl, .inr ⟨rfl, rfl⟩⟩⟩⟩

/-- A name that starts with a tilde: the directory is made at home, and the file is looked for where
the letters of its name lead. -/
theorem tilde_not_prepared :
    let s : Settings := { Settings.defaults with databaseUrl := "sqlite:///~/x/y/w.db" }
    ∃ e site', (build s).run bareSite = (.ok e, site') ∧
      e.target bareSite.working = .ok (.file ["~", "x", "y", "w.db"] .asNeeded none) ∧
      site'.tree.isDirectory ["home", "x", "y"] = true ∧
      site'.tree.isDirectory ["~", "x", "y"] = false ∧
      ((connect e).run site').1 = .error (.database .unopenable) :=
  ⟨⟨⟨"sqlite", none, none, none, none, some "~/x/y/w.db", []⟩, ⟨false, false, 0, 128⟩,
      .name "~/x/y/w.db", .queued, false, true⟩,
    ⟨.directory "home" (.directory "x" (.directory "y" .empty .empty) .empty) .empty, [],
      ["home"]⟩,
    rfl, rfl, rfl, rfl, rfl⟩

end Engine
end ConnectionCatalog
