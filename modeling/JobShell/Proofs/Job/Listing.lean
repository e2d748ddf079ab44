import JobShell.Proofs.Job.Log
import JobShell.Proofs.Pipeline.Readable
import JobShell.Proofs.Text.Numeral

/-! # The listing of jobs

The listing has one line for each job. What a line shows can be read back from it whatever the text of the job is,
since the numbers in front of the text end at the first closing bracket and at the first space behind it. That the
lines can be told apart takes texts without a line feed. No pipeline that was read has one in its text, so neither has
a job of a table that lines have made. -/

namespace JobShell

variable {c : Char} {t rest : Text} {jobs jobs' : List Job}

/-! ### One job, one line -/

namespace Job

/-- What is shown of a job. -/
def shown (j : Job) : Nat × Int × Text := (j.id, j.pid, j.text)

/-- Reads a line of the listing: the id ends at the first closing bracket, and the pid at the first space behind it. -/
def readLine (line : Text) : Nat × Int × Text :=
  let id := (line.drop 1).takeWhile (· != ']')
  let behind := ((line.drop 1).dropWhile (· != ']')).drop 2
  (Nat.ofDigitChars 10 id 0, Text.toInt (behind.takeWhile (· != ' ')), (behind.dropWhile (· != ' ')).drop 1)

theorem takeWhile_append_cons (h : c ∉ t) : (t ++ c :: rest).takeWhile (· != c) = t := by
  have ht : ∀ a ∈ t, (a != c) = true := fun a ha => bne_iff_ne.mpr (ne_of_mem_of_not_mem ha h)
  rw [List.takeWhile_append_of_pos ht, List.takeWhile_cons_of_neg (by simp), List.append_nil]

theorem dropWhile_append_cons (h : c ∉ t) : (t ++ c :: rest).dropWhile (· != c) = c :: rest := by
  have ht : ∀ a ∈ t, (a != c) = true := fun a ha => bne_iff_ne.mpr (ne_of_mem_of_not_mem ha h)
  rw [List.dropWhile_append_of_pos ht, List.dropWhile_cons_of_neg (by simp)]

theorem readLine_line (j : Job) : readLine j.line = j.shown := by
  have hid : ']' ∉ Text.ofNat j.id := fun h => by cases Text.isDigit_of_mem_ofNat h
  have hpid : ' ' ∉ Text.ofInt j.pid := fun h => by
    rcases Text.mem_ofInt h with he | hdigit
    · cases he
    · cases hdigit
  have hline : j.line.drop 1 = Text.ofNat j.id ++ ']' :: ' ' :: (Text.ofInt j.pid ++ ' ' :: j.text) := by
    simp [line]
  simp only [readLine, hline, takeWhile_append_cons hid, dropWhile_append_cons hid, List.drop_succ_cons, List.drop_zero,
    takeWhile_append_cons hpid, dropWhile_append_cons hpid, Text.ofDigitChars_ofNat, Text.toInt_ofInt, shown]

theorem lineFeed_notMem_line {j : Job} (h : '\n' ∉ j.text) : '\n' ∉ j.line := by
  intro hmem
  simp only [line, List.mem_append, List.mem_cons] at hmem
  rcases hmem with ((he | hid) | he | he | hpid) | he | htext
  · cases he
  · cases Text.isDigit_of_mem_ofNat hid
  · cases he
  · cases he
  · rcases Text.mem_ofInt hpid with he | hdigit
    · cases he
    · cases hdigit
  · cases he
  · exact h htext

end Job

/-! ### All jobs -/

namespace JobTable

/-- What is written for jobs. -/
def listing (jobs : List Job) : Text :=
  jobs.flatMap fun j => j.line ++ ['\n']

/-- Reads a listing, line by line. Behind the last line feed there is no line. -/
def readListing (t : Text) : List (Nat × Int × Text) :=
  (t.splitOn '\n').dropLast.map Job.readLine

theorem listing_cons (job : Job) (jobs : List Job) : listing (job :: jobs) = (job.line ++ ['\n']) ++ listing jobs :=
  List.flatMap_cons

theorem splitOn_listing (h : ∀ job ∈ jobs, '\n' ∉ job.text) :
    (listing jobs).splitOn '\n' = jobs.map Job.line ++ [[]] := by
  induction jobs with
  | nil => rfl
  | cons job jobs ih =>
    obtain ⟨hjob, hjobs⟩ := List.forall_mem_cons.mp h
    rw [listing_cons, List.append_assoc, List.singleton_append,
      List.splitOn_append_cons_self_of_not_mem (Job.lineFeed_notMem_line hjob), ih hjobs]
    rfl

theorem readListing_listing (h : ∀ job ∈ jobs, '\n' ∉ job.text) :
    readListing (listing jobs) = jobs.map Job.shown := by
  rw [readListing, splitOn_listing h, List.dropLast_concat, List.map_map]
  exact List.map_congr_left fun job _ => job.readLine_line

end JobTable

/-! ### The texts of pipelines -/

namespace Pipeline

theorem lineFeed_notMem_text {limits : Limits} {line : Text} {p : Pipeline} (hp : parse limits line = .ok p) :
    '\n' ∉ p.text := by
  intro hmem
  rcases Stage.mem_join hmem with hbar | ⟨shown, hshown, hmem⟩
  · simp at hbar
  · obtain ⟨stage, hstage, rfl⟩ := List.mem_map.mp hshown
    have hreadable := (isReadable_of_parse hp (List.ne_nil_of_mem hstage)).stages stage hstage
    rw [Stage.text_eq_join] at hmem
    rcases Stage.mem_join hmem with hspace | ⟨w, hw, hmem⟩
    · simp at hspace
    · have hblank := ((Stage.isPlain_of_mem hreadable w hw).2 '\n' hmem).1
      cases hblank

end Pipeline

end JobShell
