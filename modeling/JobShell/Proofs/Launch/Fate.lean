import JobShell.Launch.Spawn
import JobShell.Proofs.Prog.Conclude

/-! # What becomes of a child

A child makes its calls in a fixed order. What it asks for first may be refused; then each stream has to be put in its
place; then the program has to be run. The first of these that fails is what the child dies of, and it begins nothing
that comes later. All this can be read off the calls and their replies, which may be any. -/

namespace JobShell

namespace Prog

/-- Calls one after the other, whatever they are replied to. -/
def inTurn : List Call → Prog Unit
  | [] => pure ()
  | c :: calls => .call c fun _ => inTurn calls

variable {calls : List Call} {trace : List Event} {σ : Type} {W : Surroundings σ}

theorem runs_inTurn_iff : Runs (inTurn calls) trace () ↔ trace.map Event.call = calls := by
  induction calls generalizing trace with
  | nil => exact runs_done_iff.trans (by simp)
  | cons c calls ih =>
    constructor
    · rintro (_ | h | _)
      exact congrArg (c :: ·) (ih.mp h)
    · intro h
      obtain ⟨⟨c', r⟩, trace, rfl, rfl, rfl⟩ := List.map_eq_cons_iff.mp h
      exact .call (ih.mpr rfl)

theorem makes_inTurn {P : Call → Prop} (h : ∀ c ∈ calls, P c) : Makes P (inTurn calls) := by
  induction calls with
  | nil => exact .pure ()
  | cons c calls ih =>
    obtain ⟨hc, hcalls⟩ := List.forall_mem_cons.mp h
    exact .call hc fun _ => ih hcalls

theorem halts_inTurn (calls : List Call) : Halts W (inTurn calls) := by
  induction calls with
  | nil => exact halts_pure ()
  | cons c calls ih => exact fun _ => .call fun _ _ s _ _ => ih s

end Prog

namespace Child
open Prog (Event Runs Arrives Makes Halts inTurn)

/-! ### What comes before the streams, and behind them -/

/-- What a child asks for first: its group, and the close of what it has no use for. -/
def settling (w : Wiring) : List Call :=
  w.group.toList.map (.setGroup 0 ·) ++ w.spare.toList.map .close

theorem settle_eq (w : Wiring) : settle w = inTurn (settling w) := by
  obtain ⟨input, output, spare, group⟩ := w
  cases group <;> cases spare <;> rfl

/-- What a child asks for when its streams are in place: the default meaning of its signals. -/
def resetting : List Call :=
  defaultSignals.map .defaultSignal ++ [.unblockSignals]

theorem becomeProgram_eq (i : Invocation) : becomeProgram i = inTurn resetting >>= fun _ =>
    .call (.execute i.argv) fun e => die i.name (executeReason e) 127 := rfl

/-- What a child asks for when it gives up: to write `pish: `, what has failed, `: `, why, and a line feed, each by
itself. -/
def complaining (what : Bytes) (reason : Text) : List Call :=
  [.write 2 (Text.encode "pish: ".toList), .write 2 what, .write 2 (Text.encode ": ".toList), .write 2 reason.encode,
    .write 2 (Text.encode "\n".toList)]

theorem die_eq (what : Bytes) (reason : Text) (code : Int) :
    die what reason code = inTurn (complaining what reason) >>= fun _ => Prog.perform (.exit code) := rfl

/-! ### The streams -/

/-- Where a stream comes from: a descriptor that the child was forked with, or a file. -/
inductive Source
  | held (d : Descriptor)
  | file (path : Bytes) (access : Access)

/-- A stream and its place. `what` is named if the one cannot be put into the other. -/
structure Placement where
  what : Bytes
  source : Source
  target : Descriptor

/-- The streams of a child in their order. -/
def placements (i : Invocation) (w : Wiring) : List Placement :=
  w.input.toList.map (⟨i.name, .held ·, standardInput⟩) ++ (w.output.toList.map (⟨i.name, .held ·, standardOutput⟩) ++
    (i.input.toList.map (fun path => ⟨path, .file path .reading, standardInput⟩) ++
      i.output.toList.map fun path => ⟨path, .file path (.replacing createdMode), standardOutput⟩))

/-- The calls that put an open file into the place of another descriptor, up to the first that is refused. -/
inductive Moved (source target : Descriptor) : List Event → Except Errno Unit → Prop
  | there (h : source = target) : Moved source target [] (.ok ())
  | refused (h : source ≠ target) (e : Errno) :
      Moved source target [⟨.duplicate source target, .error e⟩] (.error e)
  | duplicated (h : source ≠ target) (r : Except Errno Unit) :
      Moved source target [⟨.duplicate source target, .ok ()⟩, ⟨.close source, r⟩] r

/-- The calls that put one stream in its place, up to the first that is refused. -/
inductive Tried : Placement → List Event → Except Errno Unit → Prop
  | held {what : Bytes} {d target : Descriptor} {moved : List Event} {r : Except Errno Unit}
      (h : Moved d target moved r) : Tried ⟨what, .held d, target⟩ moved r
  | unopened {what path : Bytes} {access : Access} {target : Descriptor} (e : Errno) :
      Tried ⟨what, .file path access, target⟩ [⟨.openFile path access, .error e⟩] (.error e)
  | opened {what path : Bytes} {access : Access} {d target : Descriptor} {moved : List Event} {r : Except Errno Unit}
      (h : Moved d target moved r) :
      Tried ⟨what, .file path access, target⟩ (⟨.openFile path access, .ok d⟩ :: moved) r

/-- The calls that put streams in their places, none of which is refused. -/
inductive Placed : List Placement → List Event → Prop
  | nil : Placed [] []
  | cons {p : Placement} {ps : List Placement} {tried placed : List Event} (h : Tried p tried (.ok ()))
      (hrest : Placed ps placed) : Placed (p :: ps) (tried ++ placed)

/-- The calls up to the first that is refused, with the stream that it is about and the reason. -/
inductive Misplacing : List Placement → List Event → Misplaced → Prop
  | here {p : Placement} {ps : List Placement} {tried : List Event} {e : Errno} (h : Tried p tried (.error e)) :
      Misplacing (p :: ps) tried ⟨p.what, e⟩
  | later {p : Placement} {ps : List Placement} {tried placed : List Event} {m : Misplaced}
      (h : Tried p tried (.ok ())) (hrest : Misplacing ps placed m) : Misplacing (p :: ps) (tried ++ placed) m

/-! ### The program of a child, as a list of streams -/

def Placement.try (p : Placement) : Prog (Except Errno Unit) :=
  match p.source with
  | .held d => move d p.target
  | .file path access => openAs path access p.target

def Placement.place (p : Placement) : ExceptT Misplaced Prog Unit :=
  ExceptT.mk do
    match ← p.try with
    | .ok _ => return .ok ()
    | .error e => return .error ⟨p.what, e⟩

theorem place_forM {α : Type} (what : α → Bytes) (step : α → Prog (Except Errno Unit)) (p : α → Placement)
    (hp : ∀ a, (p a).place = place what step (some a)) (a : Option α) (ps : List Placement) :
    (a.toList.map p ++ ps).forM Placement.place = place what step a >>= fun _ => ps.forM Placement.place := by
  cases a with
  | none => exact (pure_bind () fun _ => ps.forM Placement.place).symm
  | some a => exact congrArg (· >>= fun _ => ps.forM Placement.place) (hp a)

theorem placeStreams_eq (i : Invocation) (w : Wiring) :
    placeStreams i w = (placements i w).forM Placement.place := by
  have hnil : ([] : List Placement).forM Placement.place = pure () := rfl
  rw [placements, ← List.append_nil (i.output.toList.map _),
    place_forM (fun _ => i.name) (move · standardInput) _ fun _ => rfl,
    place_forM (fun _ => i.name) (move · standardOutput) _ fun _ => rfl,
    place_forM id (openAs · .reading standardInput) _ fun _ => rfl,
    place_forM id (openAs · (.replacing createdMode) standardOutput) _ fun _ => rfl, hnil, bind_pure_unit]
  rfl

/-! ### What its calls say -/

variable {trace : List Event} {source target : Descriptor} {p : Placement} {ps : List Placement}

theorem runs_move_iff {r : Except Errno Unit} : Runs (move source target) trace r ↔ Moved source target trace r := by
  by_cases h : source = target
  · rw [move, if_pos h]
    refine Prog.runs_done_iff.trans ⟨?_, ?_⟩
    · rintro ⟨rfl, rfl⟩
      exact .there h
    · rintro (_ | ⟨hne, _⟩ | ⟨hne, _⟩)
      · exact ⟨rfl, rfl⟩
      · exact absurd h hne
      · exact absurd h hne
  · rw [move, if_neg h]
    constructor
    · rintro (_ | @⟨_, _, e | _, _, _, hnext⟩ | _)
      · obtain ⟨rfl, rfl⟩ := Prog.runs_done_iff.mp hnext
        exact .refused h e
      · rcases hnext with _ | ⟨hnext⟩ | _
        obtain ⟨rfl, rfl⟩ := Prog.runs_done_iff.mp hnext
        exact .duplicated h _
    · rintro (heq | ⟨-, e⟩ | ⟨-, r⟩)
      · exact absurd heq h
      · exact .call (c := .duplicate source target) (r := .error e) (.done _)
      · exact .call (c := .duplicate source target) (r := .ok ()) (.call (.done _))

theorem runs_openAs_iff {path : Bytes} {access : Access} {r : Except Errno Unit} :
    Runs (openAs path access target) trace r ↔ (∃ e, trace = [⟨.openFile path access, .error e⟩] ∧ r = .error e) ∨
      ∃ d moved, trace = ⟨.openFile path access, .ok d⟩ :: moved ∧ Moved d target moved r := by
  constructor
  · rintro (_ | @⟨_, _, e | d, moved, _, hnext⟩ | _)
    · obtain ⟨rfl, rfl⟩ := Prog.runs_done_iff.mp hnext
      exact .inl ⟨e, rfl, rfl⟩
    · exact .inr ⟨d, moved, rfl, runs_move_iff.mp hnext⟩
  · rintro (⟨e, rfl, rfl⟩ | ⟨d, moved, rfl, hmoved⟩)
    · exact .call (c := .openFile path access) (r := .error e) (.done _)
    · exact .call (c := .openFile path access) (r := .ok d) (runs_move_iff.mpr hmoved)

theorem runs_try_iff {r : Except Errno Unit} : Runs p.try trace r ↔ Tried p trace r := by
  obtain ⟨what, d | ⟨path, access⟩, target⟩ := p
  · refine runs_move_iff.trans ⟨.held, ?_⟩
    rintro (h | _ | _)
    exact h
  · refine runs_openAs_iff.trans ⟨?_, ?_⟩
    · rintro (⟨e, rfl, rfl⟩ | ⟨d, moved, rfl, h⟩)
      · exact .unopened e
      · exact .opened h
    · rintro (_ | e | h)
      · exact .inl ⟨e, rfl, rfl⟩
      · exact .inr ⟨_, _, rfl, h⟩

theorem runs_place_iff {x : Except Misplaced Unit} :
    Runs p.place.run trace x ↔ ∃ r, Tried p trace r ∧ x = r.mapError (⟨p.what, ·⟩) := by
  refine Prog.runs_bind_iff.trans ⟨?_, ?_⟩
  · rintro ⟨tried, e | _, t, rfl, h, hend⟩
    · obtain ⟨rfl, rfl⟩ := Prog.runs_done_iff.mp hend
      exact ⟨_, by rwa [List.append_nil, ← runs_try_iff], rfl⟩
    · obtain ⟨rfl, rfl⟩ := Prog.runs_done_iff.mp hend
      exact ⟨_, by rwa [List.append_nil, ← runs_try_iff], rfl⟩
  · rintro ⟨e | _, h, rfl⟩
    · exact ⟨trace, .error e, [], (List.append_nil _).symm, runs_try_iff.mpr h, .done _⟩
    · exact ⟨trace, .ok (), [], (List.append_nil _).symm, runs_try_iff.mpr h, .done _⟩

/-- The streams are all put in their places, or those before the first that cannot be. -/
theorem runs_places_iff {x : Except Misplaced Unit} : Runs (ps.forM Placement.place).run trace x ↔ match x with
    | .ok _ => Placed ps trace
    | .error m => Misplacing ps trace m := by
  induction ps generalizing trace with
  | nil =>
    refine Prog.runs_done_iff.trans ⟨?_, ?_⟩
    · rintro ⟨rfl, rfl⟩
      exact .nil
    · intro h
      cases x with
      | error m => cases h
      | ok _ =>
        cases h
        exact ⟨rfl, rfl⟩
  | cons p ps ih =>
    refine Prog.runs_run_bind_iff.trans ⟨?_, ?_⟩
    · rintro (⟨m, h, rfl⟩ | ⟨tried, _, placed, rfl, h, hrest⟩)
      · obtain ⟨e | _, htried, hm⟩ := runs_place_iff.mp h
        · cases hm
          exact .here htried
        · cases hm
      · obtain ⟨e | _, htried, hx⟩ := runs_place_iff.mp h
        · cases hx
        · have hrest := ih.mp hrest
          cases x with
          | error m => exact .later htried hrest
          | ok _ => exact .cons htried hrest
    · intro h
      cases x with
      | error m =>
        cases h with
        | here h => exact .inl ⟨_, runs_place_iff.mpr ⟨_, h, rfl⟩, rfl⟩
        | later h hrest => exact .inr ⟨_, (), _, rfl, runs_place_iff.mpr ⟨_, h, rfl⟩, ih.mpr hrest⟩
      | ok _ =>
        cases h with
        | cons h hrest => exact .inr ⟨_, (), _, rfl, runs_place_iff.mpr ⟨_, h, rfl⟩, ih.mpr hrest⟩

/-! ### The calls of a child -/

/-- The calls that prepare the program. -/
def Prepares : Call → Prop
  | .setGroup pid _ => pid = 0
  | .close _ | .duplicate _ _ | .openFile _ _ | .defaultSignal _ | .unblockSignals => True
  | _ => False

/-- The calls that a child makes: it prepares its program, becomes it, or says why it cannot and exits. -/
def Own (c : Call) : Prop :=
  Prepares c ∨ (∃ bytes, c = .write standardError bytes) ∨ (∃ argv, c = .execute argv) ∨ ∃ code, c = .exit code

/-- The calls that end a child: it exits, or becomes a program. -/
def Last : Call → Prop
  | .exit _ | .execute _ | .executeFile _ _ => True
  | _ => False

theorem not_last_of_prepares {c : Call} (h : Prepares c) : ¬ Last c := by
  cases c <;> first | exact h.elim | exact id

theorem Own.ne {c : Call} (h : Own c) : c ≠ .pipe ∧ c ≠ .fork ∧ ∀ x, c ≠ .service x := by
  rcases h with h | ⟨bytes, rfl⟩ | ⟨argv, rfl⟩ | ⟨code, rfl⟩
  · cases c <;> first | exact h.elim | exact ⟨nofun, nofun, nofun⟩
  · exact ⟨nofun, nofun, nofun⟩
  · exact ⟨nofun, nofun, nofun⟩
  · exact ⟨nofun, nofun, nofun⟩

theorem prepares_settling (w : Wiring) : ∀ c ∈ settling w, Prepares c := by
  intro c hc
  rcases List.mem_append.mp hc with hc | hc
  · obtain ⟨group, -, rfl⟩ := List.mem_map.mp hc
    rfl
  · obtain ⟨spare, -, rfl⟩ := List.mem_map.mp hc
    trivial

theorem prepares_resetting : ∀ c ∈ resetting, Prepares c := by
  intro c hc
  rcases List.mem_append.mp hc with hc | hc
  · obtain ⟨s, -, rfl⟩ := List.mem_map.mp hc
    trivial
  · obtain rfl := List.mem_singleton.mp hc
    trivial

section Makes
variable {P : Call → Prop}

theorem makes_move (hduplicate : ∀ d d', P (.duplicate d d')) (hclose : ∀ d, P (.close d))
    (source target : Descriptor) : Makes P (move source target) := by
  unfold move
  split
  · exact .pure _
  · refine .call (hduplicate _ _) ?_
    rintro (e | _)
    · exact .pure _
    · exact .call (hclose _) fun _ => .pure _

/-- The streams are put in place by the same calls, but for the files that are opened. -/
theorem makes_places_of (hduplicate : ∀ d d', P (.duplicate d d')) (hclose : ∀ d, P (.close d))
    (hopen : ∀ p ∈ ps, ∀ path access, p.source = .file path access → P (.openFile path access)) :
    Makes P (ps.forM Placement.place).run := by
  have htry : ∀ p : Placement, (∀ path access, p.source = .file path access → P (.openFile path access)) →
      Makes P p.try := by
    rintro ⟨what, d | ⟨path, access⟩, target⟩ hp
    · exact makes_move hduplicate hclose d target
    · refine .call (hp path access rfl) ?_
      rintro (e | d)
      · exact .pure _
      · exact makes_move hduplicate hclose d target
  induction ps with
  | nil => exact .pure _
  | cons p ps ih =>
    obtain ⟨hp, hps⟩ := List.forall_mem_cons.mp hopen
    refine .bind (.bind (htry p hp) ?_) ?_
    · rintro (e | _) <;> exact .pure _
    · rintro (m | _)
      · exact .pure _
      · exact ih hps

theorem makes_die (hwrite : ∀ bytes, P (.write standardError bytes)) (hexit : ∀ code, P (.exit code)) (what : Bytes)
    (reason : Text) (code : Int) : Makes P (die what reason code) := by
  rw [die_eq]
  refine (Prog.makes_inTurn ?_).bind fun _ => .call (hexit _) fun e => e.elim
  simp only [complaining, List.forall_mem_cons]
  exact ⟨hwrite _, hwrite _, hwrite _, hwrite _, hwrite _, nofun⟩

end Makes

theorem makes_places (ps : List Placement) : Makes Prepares (ps.forM Placement.place).run :=
  makes_places_of (fun _ _ => trivial) (fun _ => trivial) fun _ _ _ _ _ => trivial

theorem run_eq (i : Invocation) (w : Wiring) : run i w = inTurn (settling w) >>= fun _ =>
    ((placements i w).forM Placement.place).run >>= fun
      | .error m => die m.what m.reason.description 1
      | .ok _ => inTurn resetting >>= fun _ => .call (.execute i.argv) fun e => die i.name (executeReason e) 127 := by
  rw [← settle_eq, ← placeStreams_eq, ← becomeProgram_eq]
  rfl

theorem makes_run_of {P : Call → Prop} {i : Invocation} {w : Wiring} (hsettling : ∀ c ∈ settling w, P c)
    (hplaces : Makes P ((placements i w).forM Placement.place).run) (hresetting : ∀ c ∈ resetting, P c)
    (hexecute : P (.execute i.argv)) (hwrite : ∀ bytes, P (.write standardError bytes))
    (hexit : ∀ code, P (.exit code)) : Makes P (run i w) := by
  rw [run_eq]
  refine (Prog.makes_inTurn hsettling).bind fun _ => hplaces.bind ?_
  rintro (m | _)
  · exact makes_die hwrite hexit _ _ _
  · exact (Prog.makes_inTurn hresetting).bind fun _ => .call hexecute fun e => makes_die hwrite hexit _ _ _

theorem makes_run (i : Invocation) (w : Wiring) : Makes Own (run i w) :=
  makes_run_of (fun c hc => .inl (prepares_settling w c hc)) ((makes_places _).mono fun _ => .inl)
    (fun c hc => .inl (prepares_resetting c hc)) (.inr (.inr (.inl ⟨_, rfl⟩))) (fun _ => .inr (.inl ⟨_, rfl⟩))
    fun _ => .inr (.inr (.inr ⟨_, rfl⟩))

theorem makes_never_run {α : Type} (i : Invocation) (w : Wiring) : Makes Own ((run i w).never : Prog α) :=
  (makes_run i w).bind fun e => e.elim

/-! ### How a child ends -/

/-- The calls of a child up to the one that ends it. Either a stream cannot be put in its place, and the child says
which and why and exits with 1; or all streams are in their places and the program cannot be run, and the child says
this and exits with 127; or it becomes the program. -/
inductive Fate (i : Invocation) (w : Wiring) : List Event → Call → Prop
  | misplaced {settled placed said : List Event} {m : Misplaced} (hsettled : settled.map Event.call = settling w)
      (hplaced : Misplacing (placements i w) placed m)
      (hsaid : said.map Event.call = complaining m.what m.reason.description) :
      Fate i w (settled ++ (placed ++ said)) (.exit 1)
  | notRun {settled placed reset said : List Event} {e : Errno} (hsettled : settled.map Event.call = settling w)
      (hplaced : Placed (placements i w) placed) (hreset : reset.map Event.call = resetting)
      (hsaid : said.map Event.call =
        complaining i.name (if e = .noEntry then "command not found".toList else e.description)) :
      Fate i w (settled ++ (placed ++ (reset ++ ⟨.execute i.argv, e⟩ :: said))) (.exit 127)
  | run {settled placed reset : List Event} (hsettled : settled.map Event.call = settling w)
      (hplaced : Placed (placements i w) placed) (hreset : reset.map Event.call = resetting) :
      Fate i w (settled ++ (placed ++ reset)) (.execute i.argv)

theorem not_last_of_complaining {what : Bytes} {reason : Text} : ∀ c ∈ complaining what reason, ¬ Last c := by
  simp only [complaining, List.forall_mem_cons]
  exact ⟨id, id, id, id, id, nofun⟩

theorem arrives_die_iff {what : Bytes} {reason : Text} {code : Int} {c : Call} (hc : Last c) :
    Arrives (die what reason code) trace c ↔ trace.map Event.call = complaining what reason ∧ c = .exit code := by
  rw [die_eq]
  constructor
  · intro h
    obtain h | ⟨said, _, _, rfl, hsaid, h⟩ := Prog.arrives_bind_iff.mp h
    · exact absurd hc (Prog.makes_inTurn not_last_of_complaining _ _ h)
    rcases h with _ | @⟨_, _, _, e⟩ | _
    · rw [List.append_nil]
      exact ⟨Prog.runs_inTurn_iff.mp hsaid, rfl⟩
    · exact e.elim
  · rintro ⟨hsaid, rfl⟩
    have h := (Prog.runs_inTurn_iff.mpr hsaid).bind_arrives (f := fun _ => Prog.perform (.exit code)) .here
    rwa [List.append_nil] at h

theorem arrives_run_iff {i : Invocation} {w : Wiring} {c : Call} (hc : Last c) :
    Arrives (run i w) trace c ↔ Fate i w trace c := by
  have early : ∀ {α : Type} {p : Prog α} {t : List Event}, Makes Prepares p → ¬ Arrives p t c := fun hp h =>
    not_last_of_prepares (hp _ _ h) hc
  rw [run_eq]
  constructor
  · intro h
    obtain h | ⟨settled, _, _, rfl, hsettled, h⟩ := Prog.arrives_bind_iff.mp h
    · exact absurd h (early (Prog.makes_inTurn (prepares_settling w)))
    have hsettled := Prog.runs_inTurn_iff.mp hsettled
    obtain h | ⟨placed, m | _, _, rfl, hplaced, h⟩ := Prog.arrives_bind_iff.mp h
    · exact absurd h (early (makes_places _))
    · obtain ⟨hsaid, rfl⟩ := (arrives_die_iff hc).mp h
      exact .misplaced hsettled (runs_places_iff.mp hplaced) hsaid
    obtain h | ⟨reset, _, _, rfl, hreset, h⟩ := Prog.arrives_bind_iff.mp h
    · exact absurd h (early (Prog.makes_inTurn prepares_resetting))
    have hplaced := runs_places_iff.mp hplaced
    have hreset := Prog.runs_inTurn_iff.mp hreset
    rcases h with _ | @⟨_, _, _, e, _, h⟩ | _
    · rw [List.append_nil]
      exact .run hsettled hplaced hreset
    · obtain ⟨hsaid, rfl⟩ := (arrives_die_iff hc).mp h
      exact .notRun hsettled hplaced hreset hsaid
  · intro h
    cases h with
    | @misplaced _ _ _ m hsettled hplaced hsaid =>
      exact (Prog.runs_inTurn_iff.mpr hsettled).bind_arrives ((runs_places_iff (x := .error m).mpr hplaced).bind_arrives
        ((arrives_die_iff hc).mpr ⟨hsaid, rfl⟩))
    | @notRun _ _ _ _ e hsettled hplaced hreset hsaid =>
      exact (Prog.runs_inTurn_iff.mpr hsettled).bind_arrives ((runs_places_iff (x := .ok ()).mpr hplaced).bind_arrives
        ((Prog.runs_inTurn_iff.mpr hreset).bind_arrives (.call (c := .execute i.argv) (r := e)
          ((arrives_die_iff hc).mpr ⟨hsaid, rfl⟩))))
    | @run _ _ reset hsettled hplaced hreset =>
      have hlast : Arrives (inTurn resetting >>= fun _ => .call (.execute i.argv) fun e =>
          die i.name (executeReason e) 127) (reset ++ []) (.execute i.argv) :=
        (Prog.runs_inTurn_iff.mpr hreset).bind_arrives .here
      rw [List.append_nil] at hlast
      exact (Prog.runs_inTurn_iff.mpr hsettled).bind_arrives ((runs_places_iff (x := .ok ()).mpr hplaced).bind_arrives
        hlast)

/-- A child that exits has said why, and has written nothing else. -/
theorem Fate.message {i : Invocation} {w : Wiring} {code : Int} (h : Fate i w trace (.exit code)) :
    ∃ before said what reason, trace = before ++ said ∧ said.map Event.call = complaining what reason ∧
      ∀ e ∈ before, ∀ d bytes, e.call ≠ .write d bytes := by
  have silent : ∀ {e : Event} {d : Descriptor} {bytes : Bytes}, Prepares e.call → e.call ≠ .write d bytes := by
    intro e d bytes hp he
    rw [he] at hp
    exact hp
  have hsettling : ∀ {settled : List Event}, settled.map Event.call = settling w → ∀ e ∈ settled, Prepares e.call :=
    fun hsettled e he => prepares_settling w _ (hsettled ▸ List.mem_map_of_mem he)
  have hplacing : ∀ {placed : List Event} {x : Except Misplaced Unit},
      Runs ((placements i w).forM Placement.place).run placed x → ∀ e ∈ placed, Prepares e.call :=
    fun hplaced => hplaced.makes (makes_places _)
  cases h with
  | @misplaced settled placed said m hsettled hplaced hsaid =>
    refine ⟨settled ++ placed, said, _, _, (List.append_assoc ..).symm, hsaid, fun e he d bytes => silent ?_⟩
    rcases List.mem_append.mp he with he | he
    · exact hsettling hsettled e he
    · exact hplacing (runs_places_iff (x := .error m).mpr hplaced) e he
  | @notRun settled placed reset said error hsettled hplaced hreset hsaid =>
    refine ⟨settled ++ (placed ++ (reset ++ [⟨.execute i.argv, error⟩])), said, _, _, by simp, hsaid,
      fun e he d bytes => ?_⟩
    rcases List.mem_append.mp he with he | he
    · exact silent (hsettling hsettled e he)
    rcases List.mem_append.mp he with he | he
    · exact silent (hplacing (runs_places_iff (x := .ok ()).mpr hplaced) e he)
    rcases List.mem_append.mp he with he | he
    · exact silent (prepares_resetting _ (hreset ▸ List.mem_map_of_mem he))
    · obtain rfl := List.mem_singleton.mp he
      exact nofun

/-! ### No child goes on for ever -/

theorem halts_run {σ : Type} {W : Surroundings σ} (i : Invocation) (w : Wiring) : Halts W (run i w) := by
  have hmove : ∀ source target, Halts W (move source target) := by
    intro source target
    unfold move
    split
    · exact Prog.halts_pure _
    · refine Prog.halts_bind (Prog.halts_perform _) ?_
      rintro (e | _)
      · exact Prog.halts_pure _
      · exact Prog.halts_perform _
  have htry : ∀ p : Placement, Halts W p.try := by
    rintro ⟨what, d | ⟨path, access⟩, target⟩
    · exact hmove d target
    · refine Prog.halts_bind (Prog.halts_perform _) ?_
      rintro (e | d)
      · exact Prog.halts_pure _
      · exact hmove d target
  have hplaces : ∀ ps : List Placement, Halts W (ps.forM Placement.place).run := by
    intro ps
    induction ps with
    | nil => exact Prog.halts_pure _
    | cons p ps ih =>
      refine Prog.halts_run_bind (Prog.halts_bind (htry p) ?_) fun _ => ih
      rintro (e | _) <;> exact Prog.halts_pure _
  have hdie : ∀ what reason code, Halts W (die what reason code) := fun what reason code => by
    rw [die_eq]
    exact Prog.halts_bind (Prog.halts_inTurn _) fun _ => Prog.halts_perform _
  rw [run_eq]
  refine Prog.halts_bind (Prog.halts_inTurn _) fun _ => Prog.halts_bind (hplaces _) ?_
  rintro (m | _)
  · exact hdie _ _ _
  · exact Prog.halts_bind (Prog.halts_inTurn _) fun _ s => .call fun _ e s' _ _ => hdie _ _ _ s'

end Child

end JobShell
