import LineLog.Proofs.Heard
import LineLog.Proofs.Run

/-!
# What receiving amounts to

Receiving is decided by the first read that decides, together with all bytes read up
to it: a newline, the end of the stream, a failure, or a time-out after which the
service is found to be stopping.  Other time-outs and interrupted reads leave no trace,
and how the bytes are cut into reads makes no difference.
-/

namespace LineLog

/-- Whether a read ends receiving when the shutdown flag is `stopping` after it. -/
def Read.decides (stopping : Bool) : Read → Bool
  | .chunk bytes => newline ∈ bytes
  | .endOfStream | .failed _ => true
  | .timedOut => stopping
  | .interrupted => false

/-- What a connection finds in a read and after it: the flag is looked at after a
time-out only. -/
def Read.inputs (stopping : Bool) : Read → List ConnectionInput
  | .timedOut => [.read .timedOut, .look stopping]
  | result => [.read result]

/-- A read that does not decide brings no newline. -/
theorem Read.newline_not_mem_bytes {read : Read} {stopping : Bool}
    (hquiet : read.decides stopping = false) : newline ∉ read.bytes := by
  cases read with
  | chunk bytes => simpa [Read.decides, Read.bytes] using hquiet
  | endOfStream | timedOut | interrupted | failed => exact List.not_mem_nil

namespace Receiving

def bytesOf (reads : List (Read × Bool)) : Bytes :=
  reads.flatMap (·.1.bytes)

def Undecided (reads : List (Read × Bool)) : Prop :=
  ∀ read ∈ reads, read.1.decides read.2 = false

/-- The reads that are made: all up to the first one that decides. -/
def made : List (Read × Bool) → List (Read × Bool)
  | [] => []
  | read :: reads => if read.1.decides read.2 then [read] else read :: made reads

/-- Nothing but a newline decides. -/
def Undisturbed (reads : List (Read × Bool)) : Prop :=
  ∀ read ∈ made reads, read.1.decides read.2 → ∃ chunk, read.1 = .chunk chunk

variable {reads before after : List (Read × Bool)} {bytes : Bytes}

@[simp]
theorem bytesOf_nil : bytesOf [] = [] := rfl

@[simp]
theorem bytesOf_cons (read : Read × Bool) (reads : List (Read × Bool)) :
    bytesOf (read :: reads) = read.1.bytes ++ bytesOf reads :=
  List.flatMap_cons

@[simp]
theorem bytesOf_append (reads others : List (Read × Bool)) :
    bytesOf (reads ++ others) = bytesOf reads ++ bytesOf others :=
  List.flatMap_append

theorem undecided_cons {read : Read × Bool} :
    Undecided (read :: reads) ↔ read.1.decides read.2 = false ∧ Undecided reads :=
  List.forall_mem_cons

/-- Reads that do not decide bring no newline. -/
theorem Undecided.newline_not_mem (hquiet : Undecided reads) : newline ∉ bytesOf reads := by
  intro hmem
  obtain ⟨read, hread, hnewline⟩ := List.mem_flatMap.mp hmem
  exact Read.newline_not_mem_bytes (hquiet read hread) hnewline

/-! ## One read after the other -/

/-- Goes on over reads, each with the shutdown flag as it stands after the read. -/
def continued (state : Receiving) (reads : List (Read × Bool)) : Receiving :=
  reads.foldl (fun state (result, stopping) => (state.read result).look stopping) state

theorem continued_cons (state : Receiving) (read : Read × Bool) (reads : List (Read × Bool)) :
    continued state (read :: reads) = continued ((state.read read.1).look read.2) reads := rfl

theorem continued_append (state : Receiving) (reads others : List (Read × Bool)) :
    continued state (reads ++ others) = continued (continued state reads) others :=
  List.foldl_append

theorem continued_ended (result : Except Os.Error Received) (reads : List (Read × Bool)) :
    continued (.ended result) reads = .ended result := by
  induction reads with
  | nil => rfl
  | cons read reads ih => exact ih

/-- A read that does not decide adds its bytes. -/
theorem waiting_read_look {read : Read} {stopping : Bool} (hquiet : read.decides stopping = false) :
    ((waiting bytes).read read).look stopping = waiting (bytes ++ read.bytes) := by
  cases read with
  | chunk chunk =>
      have hline : chunk.line? = none := by
        rw [Bytes.line?_eq_none_iff]
        exact Read.newline_not_mem_bytes hquiet
      simp only [Receiving.read, hline, look, Read.bytes]
  | timedOut =>
      obtain rfl : stopping = false := hquiet
      simp only [Receiving.read, look, Read.bytes, List.append_nil]
      rfl
  | interrupted => simp only [Receiving.read, look, Read.bytes, List.append_nil]
  | endOfStream | failed => cases hquiet

theorem continued_of_undecided (bytes : Bytes) (hquiet : Undecided reads) :
    continued (.waiting bytes) reads = .waiting (bytes ++ bytesOf reads) := by
  induction reads generalizing bytes with
  | nil => simp [continued]
  | cons read reads ih =>
      obtain ⟨hread, hreads⟩ := undecided_cons.mp hquiet
      rw [continued_cons, waiting_read_look hread, ih _ hreads, bytesOf_cons, List.append_assoc]

theorem ofReads_of_undecided (hquiet : Undecided reads) :
    ofReads reads = .waiting (bytesOf reads) :=
  continued_of_undecided [] hquiet

/-- What a read that decides makes of the bytes before it. -/
theorem exists_ended_of_decides (bytes : Bytes) {read : Read} {stopping : Bool}
    (hdecides : read.decides stopping) :
    ∃ result, ((waiting bytes).read read).look stopping = .ended result := by
  cases read with
  | chunk chunk =>
      cases hline : chunk.line? with
      | none => exact absurd (of_decide_eq_true hdecides) (Bytes.line?_eq_none_iff.mp hline)
      | some line => exact ⟨.ok (.message (bytes ++ line)), by simp [Receiving.read, hline, look]⟩
  | endOfStream => exact ⟨.ok (.closed bytes.length), rfl⟩
  | timedOut =>
      obtain rfl : stopping = true := hdecides
      exact ⟨.ok (.abandoned bytes.length), rfl⟩
  | failed error => exact ⟨.error error, rfl⟩
  | interrupted => cases hdecides

/-- The first read that decides has the last word. -/
theorem ofReads_of_decides {read : Read} {stopping : Bool} (hquiet : Undecided before)
    (hdecides : read.decides stopping) (after : List (Read × Bool)) :
    ofReads (before ++ (read, stopping) :: after) =
      ((waiting (bytesOf before)).read read).look stopping := by
  obtain ⟨result, hresult⟩ := exists_ended_of_decides (bytesOf before) hdecides
  calc ofReads (before ++ (read, stopping) :: after)
      = continued (ofReads before) ((read, stopping) :: after) := continued_append initial _ _
    _ = continued (((waiting (bytesOf before)).read read).look stopping) after := by
        rw [ofReads_of_undecided hquiet, continued_cons]
    _ = ((waiting (bytesOf before)).read read).look stopping := by
        rw [hresult, continued_ended]

/-- The first read that decides, if any does. -/
theorem undecided_or_exists_split (reads : List (Read × Bool)) :
    Undecided reads ∨ ∃ before read stopping after,
      reads = before ++ (read, stopping) :: after ∧ Undecided before ∧ read.decides stopping := by
  cases hfirst : reads.find? fun read => read.1.decides read.2 with
  | none =>
      left
      intro read hread
      simpa using List.find?_eq_none.mp hfirst read hread
  | some first =>
      obtain ⟨hdecides, before, after, hreads, hquiet⟩ := List.find?_eq_some_iff_append.mp hfirst
      refine .inr ⟨before, first.1, first.2, after, hreads, ?_, hdecides⟩
      intro read hread
      simpa using hquiet read hread

/-- A chunk that brings the first newline ends the message there. -/
theorem exists_line_of_chunk {chunk : Bytes} (stopping : Bool) (hquiet : Undecided before)
    (hchunk : newline ∈ chunk) (after : List (Read × Bool)) :
    ∃ line, (bytesOf before ++ chunk).line? = some line ∧
      ofReads (before ++ (.chunk chunk, stopping) :: after) = .ended (.ok (.message line)) := by
  cases hline : chunk.line? with
  | none => exact absurd hchunk (Bytes.line?_eq_none_iff.mp hline)
  | some line =>
      refine ⟨_, Bytes.line?_append_of_not_mem hquiet.newline_not_mem hline, ?_⟩
      have hdecides : (Read.chunk chunk).decides stopping := decide_eq_true hchunk
      rw [ofReads_of_decides hquiet hdecides]
      simp only [Receiving.read, hline, look]

/-- Whatever the reads are, a message is the first line of all that they bring. -/
theorem line?_of_message {message : Bytes}
    (hmessage : ofReads reads = .ended (.ok (.message message))) :
    (bytesOf reads).line? = some message := by
  rcases undecided_or_exists_split reads with
    hquiet | ⟨before, read, stopping, after, rfl, hquiet, hdecides⟩
  · rw [ofReads_of_undecided hquiet] at hmessage
    cases hmessage
  · cases read with
    | chunk chunk =>
        obtain ⟨line, hline, hresult⟩ :=
          exists_line_of_chunk stopping hquiet (of_decide_eq_true hdecides) after
        obtain rfl : line = message := by
          rw [hresult] at hmessage
          cases hmessage
          rfl
        rw [bytesOf_append, bytesOf_cons, ← List.append_assoc]
        exact Bytes.line?_append hline _
    | endOfStream | failed | timedOut =>
        rw [ofReads_of_decides hquiet hdecides] at hmessage
        cases stopping <;> cases hmessage
    | interrupted => cases hdecides

theorem made_of_decides {read : Read × Bool} (hquiet : Undecided before)
    (hdecides : read.1.decides read.2) (after : List (Read × Bool)) :
    made (before ++ read :: after) = before ++ [read] := by
  induction before with
  | nil => exact if_pos hdecides
  | cons first before ih =>
      obtain ⟨hfirst, hbefore⟩ := undecided_cons.mp hquiet
      rw [List.cons_append, made, if_neg (Bool.eq_false_iff.mp hfirst), ih hbefore,
        List.cons_append]

/-- Reads that nothing disturbs make a message of the first line that they bring. -/
theorem Undisturbed.ofReads_of_line {message : Bytes} (hcalm : Undisturbed reads)
    (hline : (bytesOf reads).line? = some message) :
    ofReads reads = .ended (.ok (.message message)) := by
  rcases undecided_or_exists_split reads with
    hquiet | ⟨before, read, stopping, after, rfl, hquiet, hdecides⟩
  · rw [Bytes.line?_eq_none_iff.mpr hquiet.newline_not_mem] at hline
    cases hline
  · have hmade : (read, stopping) ∈ made (before ++ (read, stopping) :: after) := by
      rw [made_of_decides hquiet hdecides after]
      exact List.mem_append_right before List.mem_cons_self
    obtain ⟨chunk, rfl⟩ := hcalm (read, stopping) hmade hdecides
    obtain ⟨line, hfirst, hresult⟩ :=
      exists_line_of_chunk stopping hquiet (of_decide_eq_true hdecides) after
    have hwhole := Bytes.line?_append hfirst (bytesOf after)
    rw [bytesOf_append, bytesOf_cons, ← List.append_assoc] at hline
    obtain rfl : line = message := Option.some.inj (hwhole.symm.trans hline)
    exact hresult

/-! ## The reads that a connection makes -/

theorem prefix_made (reads : List (Read × Bool)) : made reads <+: reads := by
  induction reads with
  | nil => exact List.prefix_rfl
  | cons read reads ih =>
      unfold made
      split
      · exact ⟨reads, rfl⟩
      · exact (List.prefix_cons_inj read).mpr ih

/-- Only the last of the reads that are made decides. -/
theorem undecided_of_made {read : Read × Bool} (hmade : made reads = before ++ read :: after) :
    Undecided before := by
  induction reads generalizing before with
  | nil => simp [made] at hmade
  | cons first reads ih =>
      unfold made at hmade
      split at hmade
      · next hdecides =>
        have hnothing : before = [] := by
          cases before with
          | nil => rfl
          | cons head tail => simp at hmade
        rw [hnothing]
        exact List.forall_mem_nil _
      · next hquiet =>
        cases before with
        | nil => exact List.forall_mem_nil _
        | cons head tail =>
            obtain ⟨rfl, hrest⟩ := List.cons.inj hmade
            exact undecided_cons.mpr ⟨Bool.eq_false_iff.mpr hquiet, ih hrest⟩

/-- A connection makes the reads up to the first one that decides and then goes on with
what receiving has come to. -/
theorem run_inputs_made (sent : Bytes) (reads : List (Read × Bool)) :
    Connection.run ⟨.receiving (.waiting bytes), sent⟩
        ((made reads).flatMap fun read => read.1.inputs read.2) =
      some ⟨.ofReceiving (continued (.waiting bytes) reads), sent⟩ := by
  induction reads generalizing bytes with
  | nil => rfl
  | cons read reads ih =>
      obtain ⟨result, stopping⟩ := read
      have hstep : Connection.run ⟨.receiving (.waiting bytes), sent⟩ (result.inputs stopping) =
          some ⟨.ofReceiving (((waiting bytes).read result).look stopping), sent⟩ := by
        cases result with
        | chunk chunk =>
            cases hline : chunk.line? <;>
              simp [Connection.run, Connection.next, Read.inputs, Receiving.read, look, hline]
        | endOfStream | interrupted | failed => rfl
        | timedOut => cases stopping <;> rfl
      unfold made
      split
      · next hdecides =>
        obtain ⟨ending, hended⟩ := exists_ended_of_decides bytes hdecides
        rw [List.flatMap_singleton, hstep, continued_cons, hended, continued_ended]
      · next hquiet =>
        rw [List.flatMap_cons, Connection.run, foldlM_append_eq_some_iff]
        refine ⟨_, hstep, ?_⟩
        rw [continued_cons, waiting_read_look (Bool.eq_false_iff.mpr hquiet)]
        exact ih

/-- A connection that has received its message, or failed to, reads no more. -/
theorem next_read_of_ended (result : Except Os.Error Received) (sent : Bytes) (read : Read) :
    Connection.next ⟨.ofReceiving (.ended result), sent⟩ (.read read) = none := by
  rcases result with error | message | discarded | discarded <;> rfl

/-- The read that decides is the last one. -/
theorem eq_nil_of_made {read : Read × Bool} (hmade : made reads = before ++ read :: after)
    (hdecides : read.1.decides read.2) : after = [] := by
  cases after with
  | nil => rfl
  | cons next after =>
      have hmore : made reads = (before ++ [read]) ++ next :: after := by
        rw [hmade, List.append_assoc, List.singleton_append]
      have hread := undecided_of_made hmore read (by simp)
      rw [hdecides] at hread
      cases hread

/-- Once the flag is set, at most one of the reads that are made times out. -/
theorem countP_timedOut_le_one {read : Read}
    (hmonotone : reads.Pairwise fun earlier later => earlier.2 → later.2)
    (hmade : made reads = before ++ (read, true) :: after) :
    ((read, true) :: after).countP (·.1 = .timedOut) ≤ 1 := by
  have hlate : ∀ later ∈ (read, true) :: after, later.2 = true := by
    have hordered := (hmade ▸ hmonotone.sublist (prefix_made reads).sublist)
    have hfrom := (List.pairwise_append.mp hordered).2.1
    intro later hlater
    rcases List.mem_cons.mp hlater with rfl | hlater
    · rfl
    · exact (List.pairwise_cons.mp hfrom).1 later hlater rfl
  apply countP_le_one
  intro earlier last rest hsplit htimedOut
  have hlast : last.1.decides last.2 := by
    rw [of_decide_eq_true htimedOut, hlate last (by simp [hsplit])]
    rfl
  have hnothing : rest = [] := by
    rw [hsplit, ← List.append_assoc] at hmade
    exact eq_nil_of_made hmade hlast
  simp [hnothing]

/-! ## The whole of receiving -/

/-- What receiving over `reads` comes to, each read with the shutdown flag as it stands
after it. -/
structure Decided (reads : List (Read × Bool)) : Prop where
  /-- As long as no read decides, all bytes are kept. -/
  waiting : Undecided reads → ofReads reads = .waiting (bytesOf reads)
  /-- A chunk that brings the first newline ends the message right behind it. -/
  message : ∀ before chunk stopping after, reads = before ++ (.chunk chunk, stopping) :: after →
    Undecided before → newline ∈ chunk → ∃ front rest, newline ∉ front ∧
      bytesOf before ++ chunk = front ++ newline :: rest ∧
        ofReads reads = .ended (.ok (.message (front ++ [newline])))
  closed : ∀ before stopping after, reads = before ++ (.endOfStream, stopping) :: after →
    Undecided before → ofReads reads = .ended (.ok (.closed (bytesOf before).length))
  abandoned : ∀ before after, reads = before ++ (.timedOut, true) :: after →
    Undecided before → ofReads reads = .ended (.ok (.abandoned (bytesOf before).length))
  failed : ∀ before error stopping after, reads = before ++ (.failed error, stopping) :: after →
    Undecided before → ofReads reads = .ended (.error error)
  /-- A message has one newline, its last byte, and nothing that comes behind it. -/
  line : ∀ message, ofReads reads = .ended (.ok (.message message)) →
    ∃ front rest, newline ∉ front ∧ message = front ++ [newline] ∧
      bytesOf reads = message ++ rest
  /-- Other reads that bring the same bytes make the same message. -/
  cut : ∀ others message, ofReads reads = .ended (.ok (.message message)) →
    bytesOf others = bytesOf reads → Undisturbed others →
      ofReads others = .ended (.ok (.message message))
  /-- A connection makes the reads up to the first one that decides and no more. -/
  served : Connection.initial.run ((made reads).flatMap fun read => read.1.inputs read.2) =
      some ⟨.ofReceiving (ofReads reads), []⟩ ∧
    (¬ Undecided reads → ∀ read,
      Connection.next ⟨.ofReceiving (ofReads reads), []⟩ (.read read) = none)
  /-- The flag is never unset; once it is set, at most one of the reads times out. -/
  late : reads.Pairwise (fun earlier later => earlier.2 → later.2) →
    ∀ before read after, made reads = before ++ (read, true) :: after →
      ((read, true) :: after).countP (·.1 = .timedOut) ≤ 1

/-- Receiving comes to the same wherever the reads cut the stream: it ends with the first read
that decides, and a message ends with its first newline. -/
theorem decided_of_reads (reads : List (Read × Bool)) : Decided reads where
  waiting := ofReads_of_undecided
  message := by
    rintro before chunk stopping after rfl hquiet hchunk
    obtain ⟨line, hline, hresult⟩ := exists_line_of_chunk stopping hquiet hchunk after
    obtain ⟨front, rest, hfront, rfl, hbytes⟩ := Bytes.line?_eq_some_iff.mp hline
    exact ⟨front, rest, hfront, hbytes, hresult⟩
  closed := by
    rintro before stopping after rfl hquiet
    exact ofReads_of_decides hquiet rfl after
  abandoned := by
    rintro before after rfl hquiet
    exact ofReads_of_decides hquiet rfl after
  failed := by
    rintro before error stopping after rfl hquiet
    exact ofReads_of_decides hquiet rfl after
  line := by
    intro message hmessage
    obtain ⟨front, rest, hfront, rfl, hbytes⟩ :=
      Bytes.line?_eq_some_iff.mp (line?_of_message hmessage)
    exact ⟨front, rest, hfront, rfl, by rw [hbytes, List.append_assoc, List.singleton_append]⟩
  cut := by
    intro others message hmessage hsame hcalm
    apply hcalm.ofReads_of_line
    rw [hsame]
    exact line?_of_message hmessage
  served := by
    refine ⟨run_inputs_made [] reads, ?_⟩
    intro hdecided read
    rcases undecided_or_exists_split reads with
      hquiet | ⟨before, last, stopping, after, rfl, hquiet, hdecides⟩
    · exact absurd hquiet hdecided
    · obtain ⟨result, hresult⟩ := exists_ended_of_decides (bytesOf before) hdecides
      rw [ofReads_of_decides hquiet hdecides, hresult]
      exact next_read_of_ended result [] read
  late := by
    intro hmonotone before read after hmade
    exact countP_timedOut_le_one hmonotone hmade

/-- One line in three reads with a time-out and an interruption in between, and what
comes behind it. -/
private def brokenReads : List (Read × Bool) :=
  [(.chunk [104], false), (.timedOut, false), (.chunk [105], true), (.interrupted, true),
    (.chunk [10, 120], true), (.timedOut, true)]

/-- Neither the time-out nor the interruption ends receiving, and what comes behind the newline is
left out. -/
theorem decided_of_brokenReads :
    ofReads brokenReads = .ended (.ok (.message [104, 105, 10])) ∧
      ofReads [(.chunk [104, 105, 10, 120], false)] = .ended (.ok (.message [104, 105, 10])) ∧
      (made brokenReads).length = 5 := by
  have hmessage : ofReads brokenReads = .ended (.ok (.message [104, 105, 10])) := rfl
  have hsame := (decided_of_reads brokenReads).cut [(.chunk [104, 105, 10, 120], false)] _ hmessage
    rfl (by simp [Undisturbed, made])
  exact ⟨hmessage, hsame, rfl⟩

end Receiving

end LineLog
