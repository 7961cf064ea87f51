import ObjectListing.Proofs.Store.Numbered

/-!
The root of a client's files, over any course of operations and settings. Every operation goes to one store,
as if the client had no other (`Client.RunsOn`). Requests for remote buckets always go to the same store;
requests for files go to the one below the root that was set last before the first of them, and stay there
(`Client.performed_runsOn`). A root that is set later changes nothing (`Client.not_runsOn_latest`).
-/

namespace ObjectListing

variable {σ : Type}

/-- What a client can be asked to do. -/
inductive Operation
  | list (uri : Text) (options : ListOptions) (signal : StopSignal) (turns : Nat)
  | openListing (uri : Text) (options : ListOptions)
  | listBuckets (uri : Text)
  | getObject (uri : Text)

/-- What comes of an operation. A listing that was opened knows the store that it will ask. -/
inductive Answer (σ : Type)
  | gathered (items : List ListItem) (ending : Listing.Ending)
  | opened (result : Except StoreError (Lister σ × Listing))
  | buckets (result : Except StoreError (List BucketEntry))
  | object (result : Except StoreError Blob)

/-- What a caller does with a client: it sets the root for files, or has an operation performed. -/
inductive Action
  | withFileRoot (root : Text)
  | operation (op : Operation)

namespace Operation

/-- The scheme whose store an operation asks, if it gets as far as a store. -/
def scheme? : Operation → Option Scheme
  | list uri .. | openListing uri _ | getObject uri => (Uri.parse uri).toOption.map (·.scheme)
  | listBuckets uri => ((Uri.parse uri).toOption.filter (·.isEnumeration)).map (·.scheme)

/-- Performs an operation. -/
def perform (op : Operation) (c : Client σ) (w : World σ) : Answer σ × Client σ × World σ :=
  match op with
  | list uri options signal turns =>
    let (gathered, c) := c.list uri options signal turns w
    (.gathered gathered.items gathered.ending, c, gathered.world)
  | openListing uri options =>
    let (result, c) := c.openListing uri options
    (.opened result, c, w)
  | listBuckets uri =>
    let (result, c, w) := c.listBuckets uri w
    (.buckets result, c, w)
  | getObject uri =>
    let (result, c, w) := c.getObject uri w
    (.object result, c, w)

end Operation

namespace Client

variable {c : Client σ} {op : Operation} {w : World σ} {scheme : Scheme} {root : Option Text}
  {actions : List Action} {remote : Backend σ} {files : Option Text → Backend σ}

/-- The client with this store and no other. -/
def sole (b : Backend σ) (c : Client σ) : Client σ := { c with stores := .one b }

/-- Whether an operation asks this store and no other: it has the answer and leaves the world that it would
if the client had no other store. -/
def RunsOn (c : Client σ) (op : Operation) (b : Backend σ) : Prop :=
  ∀ w, (op.perform c w).1 = (op.perform (c.sole b) w).1 ∧
    (op.perform c w).2.2 = (op.perform (c.sole b) w).2.2

/-- The client after one action. -/
def act (a : Action) (c : Client σ) (w : World σ) : Client σ × World σ :=
  match a with
  | .withFileRoot root => (c.withFileRoot root, w)
  | .operation op => (op.perform c w).2

/-- The client after actions, one after the other. -/
def actAll : List Action → Client σ → World σ → Client σ × World σ
  | [], c, w => (c, w)
  | a :: actions, c, w =>
    let (c, w) := act a c w
    actAll actions c w

/-- The root that the store of files has, or would have if it were opened now. -/
def rootNow (c : Client σ) : Option Text := c.opened.getD c.fileRoot

/-- The root that the first operation on files finds set, and that stays from then on: the latest one before
it, or of all when there is none such. -/
def settledRoot (root : Option Text) : List Action → Option Text
  | [] => root
  | .withFileRoot root :: actions => settledRoot (some root) actions
  | .operation op :: actions => if op.scheme? = some .file then root else settledRoot root actions

/-- The root that was set last. -/
def latestRoot (root : Option Text) : List Action → Option Text
  | [] => root
  | .withFileRoot root :: actions => latestRoot (some root) actions
  | .operation _ :: actions => latestRoot root actions

/-! ### One operation -/

theorem storeFor_sole (b : Backend σ) (c : Client σ) (scheme : Scheme) :
    (c.sole b).storeFor scheme = (b, c.sole b) := rfl

theorem exists_parse {uri : Text} (h : (Uri.parse uri).toOption.map (·.scheme) = some scheme) :
    ∃ parsed, Uri.parse uri = .ok parsed ∧ parsed.scheme = scheme := by
  cases hparse : Uri.parse uri with
  | error e =>
    rw [hparse] at h
    cases h
  | ok parsed =>
    rw [hparse] at h
    exact ⟨parsed, rfl, Option.some.inj h⟩

theorem exists_error {uri : Text} (h : (Uri.parse uri).toOption.map (·.scheme) = none) :
    ∃ e, Uri.parse uri = .error e := by
  cases hparse : Uri.parse uri with
  | error e => exact ⟨e, rfl⟩
  | ok parsed =>
    rw [hparse] at h
    cases h

theorem exists_enumeration {uri : Text} (h : (Operation.listBuckets uri).scheme? = some scheme) :
    ∃ parsed, Uri.parse uri = .ok parsed ∧ parsed.isEnumeration = true ∧ parsed.scheme = scheme := by
  cases hparse : Uri.parse uri with
  | error e => simp [Operation.scheme?, hparse, Except.toOption] at h
  | ok parsed =>
    have h : ∃ a, (parsed = a ∧ a.isEnumeration = true) ∧ a.scheme = scheme := by
      simpa [Operation.scheme?, hparse, Except.toOption] using h
    obtain ⟨_, ⟨rfl, henumeration⟩, hscheme⟩ := h
    exact ⟨parsed, rfl, henumeration, hscheme⟩

/-- An operation that asks a store asks the one that goes with its scheme, and has it open then. -/
theorem perform_of_scheme? (h : op.scheme? = some scheme) (c : Client σ) (w : World σ) :
    op.perform c w = ((op.perform (c.sole (c.storeFor scheme).1) w).1, (c.storeFor scheme).2,
      (op.perform (c.sole (c.storeFor scheme).1) w).2.2) := by
  have hconfig := storeFor_config c scheme
  cases op with
  | list uri options signal turns =>
    obtain ⟨parsed, hparse, rfl⟩ := exists_parse h
    rw [Operation.perform, Operation.perform, list, list, openListing_of_parse hparse,
      openListing_of_parse hparse]
    rfl
  | openListing uri options =>
    obtain ⟨parsed, hparse, rfl⟩ := exists_parse h
    rw [Operation.perform, Operation.perform, openListing_of_parse hparse, openListing_of_parse hparse]
    rfl
  | listBuckets uri =>
    obtain ⟨parsed, hparse, henumeration, rfl⟩ := exists_enumeration h
    rw [Operation.perform, Operation.perform, listBuckets, listBuckets, hparse]
    dsimp only
    rw [henumeration, storeFor_sole, hconfig]
    rfl
  | getObject uri =>
    obtain ⟨parsed, hparse, rfl⟩ := exists_parse h
    rw [Operation.perform, Operation.perform, getObject, getObject, hparse]
    dsimp only
    rw [storeFor_sole, hconfig]
    rfl

/-- An operation that asks no store is the same whatever the stores are. -/
theorem perform_of_none (h : op.scheme? = none) (c : Client σ) (w : World σ) (b : Backend σ) :
    op.perform c w = ((op.perform (c.sole b) w).1, c, (op.perform (c.sole b) w).2.2) := by
  cases op with
  | list uri options signal turns =>
    obtain ⟨e, he⟩ := exists_error h
    rw [Operation.perform, Operation.perform, list, list, openListing, openListing, he]
  | openListing uri options =>
    obtain ⟨e, he⟩ := exists_error h
    rw [Operation.perform, Operation.perform, openListing, openListing, he]
  | listBuckets uri =>
    rw [Operation.perform, Operation.perform, listBuckets, listBuckets]
    cases hparse : Uri.parse uri with
    | error e => rfl
    | ok parsed =>
      have henumeration : parsed.isEnumeration = false := by
        simpa [Operation.scheme?, hparse, Except.toOption] using h
      dsimp only
      rw [henumeration]
      rfl
  | getObject uri =>
    obtain ⟨e, he⟩ := exists_error h
    rw [Operation.perform, Operation.perform, getObject, getObject, he]

theorem runsOn_storeFor (h : op.scheme? = some scheme) (c : Client σ) :
    c.RunsOn op (c.storeFor scheme).1 := by
  intro w
  rw [perform_of_scheme? h]
  exact ⟨rfl, rfl⟩

/-! ### Any course of actions -/

theorem storeFor_s3 (hstores : c.stores = .byScheme remote files) : c.storeFor .s3 = (remote, c) := by
  cases c
  cases hstores
  rfl

theorem storeFor_file (hstores : c.stores = .byScheme remote files) :
    c.storeFor .file = (files c.rootNow, { c with opened := some c.rootNow }) := by
  cases c
  cases hstores
  rfl

/-- What an action does to a client: an operation on files opens their store where it stands, a new root
counts as long as the store is not open, and nothing else has an effect. -/
theorem act_client (hstores : c.stores = .byScheme remote files) (a : Action) (w : World σ) :
    (act a c w).1 = match a with
      | .withFileRoot root => { c with fileRoot := some root }
      | .operation op => if op.scheme? = some .file then { c with opened := some c.rootNow } else c := by
  cases a with
  | withFileRoot root => rfl
  | operation op =>
    rw [act]
    dsimp only
    cases hscheme : op.scheme? with
    | none =>
      rw [perform_of_none hscheme c w (files none)]
      rfl
    | some scheme =>
      rw [perform_of_scheme? hscheme c w]
      cases scheme with
      | s3 => rw [storeFor_s3 hstores]; rfl
      | file => rw [storeFor_file hstores]; rfl

/-- Over any course of actions a client keeps its stores, and the root of its files is the one that its
store was opened with, or will be. -/
theorem actAll_client (actions : List Action) (hstores : c.stores = .byScheme remote files)
    (w : World σ) :
    (actAll actions c w).1.stores = .byScheme remote files ∧
      (actAll actions c w).1.rootNow =
        if c.opened.isSome then c.rootNow else settledRoot c.fileRoot actions := by
  induction actions generalizing c w with
  | nil =>
    refine ⟨hstores, ?_⟩
    cases hopened : c.opened with
    | none => simp [actAll, rootNow, settledRoot, hopened]
    | some root => simp [actAll, rootNow, hopened]
  | cons a actions ih =>
    rw [actAll]
    dsimp only
    rw [act_client hstores a w]
    cases a with
    | withFileRoot root =>
      obtain ⟨hstores', hroot⟩ := ih (c := { c with fileRoot := some root }) hstores w
      refine ⟨hstores', hroot.trans ?_⟩
      cases hopened : c.opened with
      | none => simp [settledRoot]
      | some root' => simp [rootNow, hopened]
    | operation op =>
      dsimp only
      rw [settledRoot]
      split
      · obtain ⟨hstores', hroot⟩ :=
          ih (c := { c with opened := some c.rootNow }) hstores (act (.operation op) c w).2
        refine ⟨hstores', hroot.trans ?_⟩
        cases hopened : c.opened with
        | none => simp [rootNow, hopened]
        | some root' => simp [rootNow, hopened]
      · exact ih hstores _

/-- The client with these settings and stores that nothing has been done with. -/
def fresh (config : EngineConfig) (remote : Backend σ) (files : Option Text → Backend σ) : Client σ where
  config := config
  stores := .byScheme remote files

/-- Until files are asked for, the root that is set last counts. -/
theorem settledRoot_eq_latestRoot (h : ∀ op, .operation op ∈ actions → op.scheme? ≠ some .file) :
    settledRoot root actions = latestRoot root actions := by
  induction actions generalizing root with
  | nil => rfl
  | cons a actions ih =>
    have hactions : ∀ op, .operation op ∈ actions → op.scheme? ≠ some .file :=
      fun op hop => h op (List.mem_cons_of_mem a hop)
    cases a with
    | withFileRoot root => exact ih hactions
    | operation op =>
      rw [settledRoot, if_neg (h op List.mem_cons_self), latestRoot]
      exact ih hactions

/-- From then on no setting counts. -/
theorem settledRoot_append_cons (h : op.scheme? = some .file) (more : List Action) :
    settledRoot root (actions ++ .operation op :: more) = settledRoot root actions := by
  induction actions generalizing root with
  | nil => simp [settledRoot, h]
  | cons a actions ih =>
    cases a with
    | withFileRoot root => exact ih
    | operation op' =>
      rw [List.cons_append, settledRoot, settledRoot, ih]

/-- After any course of actions, an operation on remote buckets asks the store of these, and one on files asks
the store of files below the root that was set last when files were asked for the first time, or without a
root when none was set then. So all operations on files ask one store, and a root that is set before the
first of them counts, and one that is set later does not. -/
theorem performed_runsOn (config : EngineConfig) (remote : Backend σ) (files : Option Text → Backend σ)
    (actions : List Action) (op : Operation) (w : World σ) :
    let c := (actAll actions (fresh config remote files) w).1
    (op.scheme? = some .s3 → c.RunsOn op remote) ∧
    (op.scheme? = some .file → c.RunsOn op (files (settledRoot none actions))) ∧
    (op.scheme? = none → ∀ b, c.RunsOn op b) ∧
    ((∀ op, .operation op ∈ actions → op.scheme? ≠ some .file) →
      settledRoot none actions = latestRoot none actions) ∧
    (op.scheme? = some .file → ∀ more,
      settledRoot none (actions ++ .operation op :: more) = settledRoot none actions) := by
  intro c
  obtain ⟨hstores, hroot⟩ := actAll_client actions (rfl : (fresh config remote files).stores = _) w
  refine ⟨fun h => ?_, fun h => ?_, fun h b w' => ?_, settledRoot_eq_latestRoot,
    fun h more => settledRoot_append_cons h more⟩
  · have hrun := runsOn_storeFor h c
    rwa [storeFor_s3 hstores] at hrun
  · have hrun := runsOn_storeFor h c
    rw [storeFor_file hstores, hroot] at hrun
    exact hrun
  · rw [perform_of_none h c w' b]
    exact ⟨rfl, rfl⟩

/-- Stores of files that are told apart by their names. -/
def namedFiles (root : Option Text) : Backend Unit where
  name := if root.isSome then "below" else "anywhere"
  listObjects _ _ := { answer := .ok ⟨[], none⟩, store := () }
  listBuckets _ := { answer := .ok [], store := () }
  getObject _ _ _ := { answer := .ok (.zeros 0), store := () }

/-- A root that is set after files were asked for does not count. -/
theorem not_runsOn_latest : ¬ ∀ (files : Option Text → Backend Unit) (actions : List Action)
    (op : Operation) (w : World Unit), op.scheme? = some .file →
    (actAll actions (fresh {} (namedFiles none) files) w).1.RunsOn op (files (latestRoot none actions)) := by
  intro h
  have hparse : Uri.parse (Text.of "file://b") = .ok ⟨.file, ['b'], []⟩ := by rfl
  let op : Operation := .openListing (Text.of "file://b") {}
  obtain ⟨hanswer, -⟩ :=
    h namedFiles [.operation op, .withFileRoot ['/']] op { store := () } rfl { store := () }
  simp only [op, actAll, act, Operation.perform, openListing_of_parse hparse] at hanswer
  have hname := congrArg (·.1.backend.name) (Except.ok.inj (Answer.opened.inj hanswer))
  exact absurd hname (by decide)

end Client

end ObjectListing
