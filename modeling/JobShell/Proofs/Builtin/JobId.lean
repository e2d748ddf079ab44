import JobShell.Proofs.Launch.Unwaited
import JobShell.Proofs.Text.Decimal

/-! # The ids of jobs as arguments

`fg` and `bg` take their argument for an id. A decimal is one, with a percent sign or a plus sign in front or with both
in this order, as long as its value is a number of 64 bits. Which job is meant depends on this value alone. Any other
argument is reported as it is, before anything is done. -/

namespace JobShell.Builtin
open Text (Unsigned)

variable {argument : Text} {id : Nat} {k : Bool}

/-- The argument is a decimal, with a percent sign in front or not. -/
inductive SpellsId : Text → Nat → Prop
  | plain {t : Text} {id : Nat} (h : Unsigned t id) : SpellsId t id
  | percent {t : Text} {id : Nat} (h : Unsigned t id) : SpellsId ('%' :: t) id

/-- The value of the argument is a number of 64 bits. -/
structure NamesId (argument : Text) (id : Nat) : Prop where
  spells : SpellsId argument id
  fits : id < 2 ^ 64

/-! ### Reading an argument -/

theorem unsigned_percent (t : Text) (id : Nat) : ¬ Unsigned ('%' :: t) id := by
  rintro (h | _)
  exact h.head_ne (by decide) rfl

theorem SpellsId.unique {id' : Nat} (h : SpellsId argument id) (h' : SpellsId argument id') : id = id' := by
  cases h with
  | plain h =>
    cases h' with
    | plain h' => exact h.unique h'
    | percent _ => exact absurd h (unsigned_percent _ _)
  | percent h =>
    cases h' with
    | plain h' => exact absurd h' (unsigned_percent _ _)
    | percent h' => exact h.unique h'

theorem toOption_eq_some_iff {α ε : Type} {x : Except ε α} {a : α} : x.toOption = some a ↔ x = .ok a := by
  cases x <;> simp [Except.toOption]

theorem readId?_eq_some_iff : readId? argument = some id ↔ NamesId argument id := by
  constructor
  · intro h
    unfold readId? at h
    split at h
    · obtain ⟨h, hid⟩ := Text.readUnsigned_eq_ok_iff.mp (toOption_eq_some_iff.mp h)
      exact ⟨.percent h, hid⟩
    · obtain ⟨h, hid⟩ := Text.readUnsigned_eq_ok_iff.mp (toOption_eq_some_iff.mp h)
      exact ⟨.plain h, hid⟩
  · rintro ⟨h | h, hid⟩
    · -- A decimal does not begin with a percent sign, so that nothing is taken off.
      unfold readId?
      split
      · exact absurd h (unsigned_percent _ _)
      · rw [Text.readUnsigned_eq_ok_iff.mpr ⟨h, hid⟩]
        rfl
    · rw [readId?, Text.readUnsigned_eq_ok_iff.mpr ⟨h, hid⟩]
      rfl

example : readId? "%+007".toList = some 7 ∧ readId? "18446744073709551616".toList = none ∧
    readId? "%%1".toList = none := by decide

theorem jobId_eq_ok_iff {b : Builtin} : b.jobId [argument] = .ok id ↔ NamesId argument id := by
  rw [← readId?_eq_some_iff, jobId]
  cases readId? argument <;> simp

theorem jobId_of_not_names {b : Builtin} (h : ∀ id, ¬ NamesId argument id) :
    b.jobId [argument] = .error (.invalidJobId b.name argument) := by
  have hnone : readId? argument = none := Option.eq_none_iff_forall_ne_some.mpr fun id hid =>
    h id (readId?_eq_some_iff.mp hid)
  rw [jobId, hnone]

/-! ### Looking for the job -/

theorem findJob_bind {α : Type} {b : Builtin} {args : List Text} (h : b.jobId args = .ok id) (f : Job → Action α) :
    (b.findJob args >>= f).run = Registry.find? id >>= fun found => match found with
      | some job => (f job).run
      | none => pure (.error (.noSuchJob b.name id)) := by
  unfold findJob
  rw [h]
  show Prog.call .acquireJobs _ = Prog.call .acquireJobs _
  refine congrArg _ (funext fun t => ?_)
  show Prog.call (.releaseJobs t) _ = Prog.call (.releaseJobs t) _
  refine congrArg _ (funext fun _ => ?_)
  show Prog.bind (ExceptT.bindCont _ (.ok (JobTable.find? t id))) _ = match JobTable.find? t id with
    | some job => (f job).run
    | none => pure (.error (.noSuchJob b.name id))
  cases JobTable.find? t id <;> rfl

theorem findJob_bind_error {α : Type} {b : Builtin} {args : List Text} {f : Failure} (h : b.jobId args = .error f)
    (next : Job → Action α) : (b.findJob args >>= next).run = pure (.error f) := by
  unfold findJob
  rw [h]
  rfl

/-! ### Failures of another kind -/

/-- The program did not fail because of an argument. -/
def Taken {α : Type} (r : Except Failure α) : Prop := ∀ name text, r ≠ .error (.invalidJobId name text)

theorem taken_ok {α : Type} (a : α) : Taken (.ok a) := nofun

theorem Taken.error {α β : Type} {f : Failure} (h : Taken (.error f : Except Failure α)) :
    Taken (.error f : Except Failure β) := fun name text he =>
  h name text (congrArg Except.error (Except.error.inj he))

theorem Taken.map {α β : Type} {f : α → β} {r : Except Failure α} (h : Taken r) : Taken (r.map f) := by
  cases r with
  | error e => exact h.error
  | ok a => exact taken_ok (f a)

theorem ensures_waitFor_taken (pid : Pid) : (waitFor pid).Ensures watching (fun r _ => Taken r) k := by
  refine (ensures_waitFor_failure pid).mono fun r _ hr name text he => ?_
  obtain ⟨e, hf⟩ := hr _ he
  cases hf

theorem ensures_printLine_taken (line : Text) : (printLine line).run.Ensures watching (fun r _ => Taken r) k := by
  refine ensures_printLine_of (ignores_of_not_waits rfl ?_)
  rintro (e | _)
  · exact nofun
  · exact taken_ok ()

theorem ensures_resume_taken (b : Builtin) (group : Pid) :
    (b.resume group).run.Ensures watching (fun r _ => Taken r) k := by
  refine ensures_resume_of (ignores_of_not_waits rfl ?_)
  rintro (e | _)
  · dsimp only
    split_ifs
    · exact taken_ok ()
    · exact nofun
  · exact taken_ok ()

/-- With the name of an id, the only failure before the job is found is that there is no such job. -/
theorem ensures_findJob_taken {b : Builtin} (h : NamesId argument id) :
    (b.findJob [argument]).run.Ensures watching (fun r _ => Taken r) k := by
  refine ensures_findJob_of (fun f hf => ?_) fun id' _ => ensures_look_of fun t => fun _ => ?_
  · rw [jobId_eq_ok_iff.mpr h] at hf
    cases hf
  · cases t.find? id' with
    | none => exact nofun
    | some job => exact taken_ok job

theorem ensures_foreground_taken (h : NamesId argument id) :
    (foreground [argument]).run.Ensures watching (fun r _ => Taken r) k := by
  refine @ensures_foreground_of_steps _ _ _ _ _ (fun _ _ => True) (fun _ _ => True) (fun _ _ _ => True)
    (fun _ _ _ => True) (fun _ _ r _ => Taken r) (fun _ r _ => Taken r) ?_ (fun job _ _ => ?_)
    (fun job _ _ there => ?_) (fun job _ _ _ => ?_) (fun job _ _ _ => ensures_waitFor_taken job.pid)
    (fun _ _ _ hr => ?_) (fun _ _ _ hr => hr) fun job _ k hr => ?_
  · refine (ensures_findJob_taken h).mono ?_
    rintro (f | _) _ hr
    · exact hr.error
    · trivial
  · refine (ensures_printLine_taken job.text).mono ?_
    rintro (f | _) _ hr
    · exact hr.error
    · trivial
  · dsimp only
    split_ifs
    exact ensures_watching_true _ _
  · refine (ensures_resume_taken fg job.group).mono ?_
    rintro (f | _) _ hr
    · exact hr.error
    · trivial
  · exact (ensures_watching_true Terminal.reclaim _).mono fun _ _ _ => hr
  · exact (ensures_watching_true (Registry.remove job.pid) k).mono fun _ _ _ => hr.map

/-! ### What the builtins take for an id -/

/-- What a builtin makes of an argument that is its only one. -/
structure TakesId (b : Builtin) : Prop where
  reads : ∀ argument id, b.jobId [argument] = .ok id ↔ NamesId argument id
  /-- Behind the argument it is only about the job with the id, if the table has one. -/
  serves : ∃ serve : Job → Action Flow, ∀ argument id, NamesId argument id → (b.run [argument]).run =
    Registry.find? id >>= fun found => match found with
      | some job => (serve job).run
      | none => pure (.error (.noSuchJob b.name id))
  /-- Without an id nothing is done, and the argument is reported as it is. -/
  refuses : ∀ argument, (∀ id, ¬ NamesId argument id) →
    (b.run [argument]).run = pure (.error (.invalidJobId b.name argument))
  /-- With an id nothing is said against any argument, whatever the calls are replied to. -/
  accepts : ∀ argument id, NamesId argument id → ∀ trace r, Prog.Runs (b.run [argument]).run trace r → Taken r

theorem takesId_of {b : Builtin} (hb : ∃ serve : Job → Action Flow, ∀ args, b.run args = b.findJob args >>= serve)
    (h : ∀ argument id, NamesId argument id → (b.run [argument]).run.Ensures watching (fun r _ => Taken r) false) :
    TakesId b := by
  obtain ⟨serve, hserve⟩ := hb
  refine ⟨fun _ _ => jobId_eq_ok_iff, ⟨serve, fun argument id hid => ?_⟩, fun argument hnone => ?_,
    fun argument id hid trace r hr => (h argument id hid).runs hr⟩
  · rw [hserve]
    exact findJob_bind (jobId_eq_ok_iff.mpr hid) serve
  · rw [hserve]
    exact findJob_bind_error (jobId_of_not_names hnone) serve

theorem takesId_fg : TakesId fg := by
  refine takesId_of ⟨_, fun args => bind_assoc (fg.findJob args) _ _⟩ fun argument id hid => ensures_proceed_of ?_
  exact (ensures_foreground_taken hid).mono fun _ _ hr => hr.map

theorem takesId_bg : TakesId bg := by
  refine takesId_of ⟨_, fun args => bind_assoc (bg.findJob args) _ _⟩ fun argument id hid => ensures_proceed_of ?_
  refine Prog.ensures_run_bind ((ensures_findJob_taken hid).mono ?_)
  rintro (f | job) _ hr
  · exact hr.error
  · exact (ensures_resume_taken bg job.group).mono fun _ _ hr => hr.map

theorem TakesId.run_congr {b : Builtin} (hb : TakesId b) {argument' : Text} (h : NamesId argument id)
    (h' : NamesId argument' id) : b.run [argument] = b.run [argument'] := by
  obtain ⟨serve, hserve⟩ := hb.serves
  exact (hserve argument id h).trans (hserve argument' id h').symm

/-- Both builtins take the same arguments for ids, and the same id means the same job in all its spellings. A decimal
out of the range is not taken for an id within it. -/
theorem takesId_fg_bg : TakesId fg ∧ TakesId bg ∧
    (∀ argument id, fg.jobId [argument] = .ok id ↔ bg.jobId [argument] = .ok id) ∧
    (∀ argument argument' n, SpellsId argument n → SpellsId argument' n → n < 2 ^ 64 →
      fg.run [argument] = fg.run [argument'] ∧ bg.run [argument] = bg.run [argument']) ∧
    (∀ n, SpellsId (Text.ofNat n) n ∧ SpellsId ('%' :: Text.ofNat n) n) ∧
    ∀ argument n, SpellsId argument n → 2 ^ 64 ≤ n → ∀ id, ¬ NamesId argument id := by
  refine ⟨takesId_fg, takesId_bg, fun argument id => ?_, fun argument argument' n h h' hn => ?_, fun n => ?_,
    fun argument n h hn id hid => ?_⟩
  · exact jobId_eq_ok_iff.trans jobId_eq_ok_iff.symm
  · exact ⟨takesId_fg.run_congr ⟨h, hn⟩ ⟨h', hn⟩, takesId_bg.run_congr ⟨h, hn⟩ ⟨h', hn⟩⟩
  · exact ⟨.plain (.plain (Text.decimal_ofNat n)), .percent (.plain (Text.decimal_ofNat n))⟩
  · have hlt : n < 2 ^ 64 := h.unique hid.spells ▸ hid.fits
    exact absurd hn (Nat.not_le.mpr hlt)

end JobShell.Builtin
