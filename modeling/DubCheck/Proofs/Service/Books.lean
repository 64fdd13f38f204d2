import DubCheck.Proofs.Service.Reading
/-!
# The books of a server

What a server has read and what its jobs have delivered says which responses it has written and
which requests are still waiting.  `Books` is that relation; it holds of a server between events,
and it is kept up when a line is answered at once, when a ticket is remembered and when an outcome
is answered.

* `Reading.reply?`: the response that is written to a line, once there is one.
* `Books.prompt`, `Books.later`, `Books.settle`: how the books are kept up.
-/

namespace DubCheck.Service

namespace Reading

/-- The ticket under which the answer to a line comes later. -/
def ticket? (r : Reading) : Option Nat :=
  match r.course.1 with
  | .ok (.later ticket) => some ticket
  | _ => none

/-- The outcome with a ticket. -/
def outcome? (deliveries : List Delivery) (ticket : Nat) : Option (Except Failure Outcome) :=
  (deliveries.find? (·.ticket == ticket)).map (·.outcome)

/-- The response to a line when certain outcomes are known, if there is one. -/
def reply? (deliveries : List Delivery) (r : Reading) : Option Response :=
  match r.ticket? with
  | none => r.prompt?
  | some ticket => (outcome? deliveries ticket).bind (settled? r.room r.id)

/-- The ticket and the identifier of a line that is still to be answered. -/
def pending? (deliveries : List Delivery) (r : Reading) : Option (Nat × Document) :=
  match r.ticket? with
  | none => none
  | some ticket => if (outcome? deliveries ticket).isSome then none else some (ticket, r.id)

/-- A line and its response, if there is one. -/
def answered? (deliveries : List Delivery) (r : Reading) : Option (Reading × Response) :=
  (r.reply? deliveries).map (r, ·)

lemma outcome?_concat (deliveries : List Delivery) (d : Delivery) (ticket : Nat) :
    outcome? (deliveries ++ [d]) ticket =
      (outcome? deliveries ticket).or (if d.ticket = ticket then some d.outcome else none) := by
  rw [outcome?, outcome?, List.find?_append]
  cases deliveries.find? (·.ticket == ticket) with
  | some found => rfl
  | none =>
    by_cases h : d.ticket = ticket
    · simp [h]
    · simp [h]

end Reading

/-! ## Books -/

/-- The responses that have been written, in the order of their lines. -/
def entries (readings : List Reading) (deliveries : List Delivery) : List (Reading × Response) :=
  readings.filterMap (·.answered? deliveries)

/-- Whether no job is started for a line, so that its response is written when it is served. -/
def atOnce (entry : Reading × Response) : Bool :=
  !entry.1.startsJob

/-- Some responses are written on some lines of output: each once, and those to lines for which no
job is started in the order of these lines. -/
def WrittenAs (entries : List (Reading × Response)) (output : List String) : Prop :=
  ∃ replies : List (Reading × Response), output = replies.map (·.2.line) ∧
    replies.Perm entries ∧ replies.filter atOnce = entries.filter atOnce

/-- What has been read and delivered accounts for the requests that wait and for the output.  The
tickets are numbered up to the given one. -/
structure Books (readings : List Reading) (deliveries : List Delivery)
    (waiting : List (Nat × Document)) (output : List String) (tickets : Nat) : Prop where
  waiting_eq : waiting = readings.filterMap (·.pending? deliveries)
  distinct : (readings.filterMap (·.ticket?)).Nodup
  bounded : ∀ r ∈ readings, ∀ ticket, r.ticket? = some ticket → ticket ≤ tickets
  delivered : ∀ d ∈ deliveries, d.ticket ≤ tickets
  written : WrittenAs (entries readings deliveries) output

namespace WrittenAs

variable {before : List (Reading × Response)} {output : List String}

/-- A response that is written last is the one to the last line, or a job has been started for its
line. -/
lemma concat (h : WrittenAs before output) {after : List (Reading × Response)}
    (entry : Reading × Response) (hperm : (before ++ [entry]).Perm after)
    (hfilter : (before ++ [entry]).filter atOnce = after.filter atOnce) :
    WrittenAs after (output ++ [entry.2.line]) := by
  obtain ⟨replies, houtput, hreplies, honce⟩ := h
  refine ⟨replies ++ [entry], ?_, (hreplies.append_right _).trans hperm, ?_⟩
  · rw [houtput, List.map_append, List.map_singleton]
  · rw [← hfilter, List.filter_append, List.filter_append, honce]

end WrittenAs

/-- What comes once in a list and ends it is followed by nothing. -/
lemma eq_nil_of_getLast?_append_cons {α : Type} {x : α} {before after : List α}
    (hlast : (before ++ x :: after).getLast? = some x) (hnot : x ∉ after) : after = [] := by
  rcases after.eq_nil_or_concat with hnil | ⟨front, y, rfl⟩
  · exact hnil
  · rw [List.concat_eq_append, ← List.cons_append, ← List.append_assoc,
      List.getLast?_concat] at hlast
    cases hlast
    exact absurd (by simp) hnot

namespace Books

variable {readings : List Reading} {deliveries : List Delivery} {waiting : List (Nat × Document)}
  {output : List String} {tickets : Nat}

/-- Only tickets that have been given out are waited for. -/
lemma waiting_le (h : Books readings deliveries waiting output tickets) :
    ∀ entry ∈ waiting, entry.1 ≤ tickets := by
  intro entry hentry
  rw [h.waiting_eq] at hentry
  obtain ⟨r, hr, hpending⟩ := List.mem_filterMap.mp hentry
  rw [Reading.pending?] at hpending
  split at hpending
  · cases hpending
  · rename_i ticket hticket
    split at hpending
    · cases hpending
    · cases hpending
      exact h.bounded r hr ticket hticket

/-- The tickets that are waited for are those without an outcome. -/
lemma map_waiting (h : Books readings deliveries waiting output tickets) :
    waiting.map (·.1) = (readings.filterMap (·.ticket?)).filter fun ticket =>
      (Reading.outcome? deliveries ticket).isNone := by
  rw [h.waiting_eq, List.map_filterMap, List.filter_filterMap]
  refine List.filterMap_congr fun r _ => ?_
  rw [Reading.pending?]
  cases r.ticket? with
  | none => rfl
  | some ticket => cases hd : Reading.outcome? deliveries ticket <;> simp [Option.filter, hd]

/-- No ticket is waited for twice. -/
lemma nodup_waiting (h : Books readings deliveries waiting output tickets) :
    (waiting.map (·.1)).Nodup := by
  rw [h.map_waiting]
  exact h.distinct.filter _

/-- The next ticket is not waited for before it is given out. -/
lemma lookup_concat (h : Books readings deliveries waiting output tickets) (id : Document) :
    (waiting ++ [(tickets + 1, id)]).lookup (tickets + 1) = some id := by
  have hle := h.waiting_le
  clear h
  induction waiting with
  | nil => simp
  | cons entry waiting ih =>
    rw [List.forall_mem_cons] at hle
    obtain ⟨ticket, other⟩ := entry
    have hne : (tickets + 1 == ticket) = false := by
      have := hle.1
      simp only [beq_eq_false_iff_ne]
      omega
    rw [List.cons_append, List.lookup_cons, hne]
    exact ih hle.2

lemma filter_concat (h : Books readings deliveries waiting output tickets) (id : Document) :
    (waiting ++ [(tickets + 1, id)]).filter (·.1 != tickets + 1) = waiting := by
  rw [List.filter_append, List.filter_eq_self.mpr]
  · simp
  · intro entry hentry
    have := h.waiting_le entry hentry
    simp only [bne_iff_ne]
    omega

/-- A line is answered at once, or its response is lost. -/
lemma prompt (h : Books readings deliveries waiting output tickets) {r : Reading}
    (hr : r.ticket? = none) : Books (readings ++ [r]) deliveries waiting
      (output ++ r.prompt?.toList.map Response.line) tickets := by
  refine ⟨?_, ?_, ?_, h.delivered, ?_⟩
  · rw [h.waiting_eq]
    simp [Reading.pending?, hr]
  · simpa [List.filterMap_append, hr] using h.distinct
  · intro q hq ticket hqticket
    rcases List.mem_append.mp hq with hq | hq
    · exact h.bounded q hq ticket hqticket
    · rw [List.mem_singleton.mp hq, hr] at hqticket
      cases hqticket
  · have hentry : r.answered? deliveries = r.prompt?.map (r, ·) := by
      simp [Reading.answered?, Reading.reply?, hr]
    have hentries : entries (readings ++ [r]) deliveries =
        entries readings deliveries ++ (r.prompt?.map (r, ·)).toList := by
      rw [entries, List.filterMap_append, ← hentry]
      cases h : r.answered? deliveries <;> simp [entries, h]
    rw [hentries]
    cases r.prompt? with
    | none => simpa using h.written
    | some response => exact h.written.concat (r, response) (.refl _) rfl

/-- The answer to a line comes later, under the next ticket. -/
lemma later (h : Books readings deliveries waiting output tickets) {r : Reading}
    (hr : r.ticket? = some (tickets + 1)) :
    Books (readings ++ [r]) deliveries (waiting ++ [(tickets + 1, r.id)]) output (tickets + 1) := by
  have hunknown : Reading.outcome? deliveries (tickets + 1) = none := by
    rw [Reading.outcome?, Option.map_eq_none_iff, List.find?_eq_none]
    intro d hd
    have := h.delivered d hd
    simp only [beq_iff_eq]
    omega
  have hentries : entries (readings ++ [r]) deliveries = entries readings deliveries := by
    simp [entries, List.filterMap_append, Reading.answered?, Reading.reply?, hr, hunknown]
  refine ⟨?_, ?_, ?_, ?_, ?_⟩
  · rw [h.waiting_eq, List.filterMap_append]
    simp [Reading.pending?, hr, hunknown]
  · rw [List.filterMap_append, List.filterMap_cons_some hr, List.filterMap_nil]
    refine List.nodup_append.mpr ⟨h.distinct, List.nodup_singleton _, ?_⟩
    rintro ticket hticket _ hnew rfl
    obtain ⟨q, hq, hqticket⟩ := List.mem_filterMap.mp hticket
    have := h.bounded q hq ticket hqticket
    rw [List.mem_singleton] at hnew
    omega
  · intro q hq ticket hqticket
    rcases List.mem_append.mp hq with hq | hq
    · exact (h.bounded q hq ticket hqticket).trans (Nat.le_succ _)
    · rw [List.mem_singleton.mp hq, hr] at hqticket
      exact (Option.some.inj hqticket).ge
  · exact fun d hd => (h.delivered d hd).trans (Nat.le_succ _)
  · rw [hentries]
    exact h.written

/-- A delivery is the outcome of a line, and says nothing about lines with other tickets. -/
lemma answered?_concat_of_ne {r : Reading} {d : Delivery} (h : r.ticket? ≠ some d.ticket) :
    r.answered? (deliveries ++ [d]) = r.answered? deliveries := by
  rw [Reading.answered?, Reading.answered?, Reading.reply?, Reading.reply?]
  cases hr : r.ticket? with
  | none => rfl
  | some ticket =>
    have hne : d.ticket ≠ ticket := by
      rintro rfl
      exact h hr
    simp only [Reading.outcome?_concat, if_neg hne, Option.or_none]

/-- A line is no longer pending when the outcome with its ticket has been delivered. -/
lemma pending?_concat (r : Reading) (d : Delivery) :
    (r.pending? deliveries).filter (·.1 != d.ticket) = r.pending? (deliveries ++ [d]) := by
  rw [Reading.pending?, Reading.pending?]
  cases r.ticket? with
  | none => rfl
  | some ticket =>
    simp only [Reading.outcome?_concat]
    cases Reading.outcome? deliveries ticket with
    | some outcome => rfl
    | none =>
      by_cases h : d.ticket = ticket
      · simp [h]
      · simp [h, Ne.symm h]

/-- A line that is waited for has the ticket that is remembered with its identifier. -/
lemma exists_reading (h : Books readings deliveries waiting output tickets) {ticket : Nat}
    {id : Document} (hd : waiting.lookup ticket = some id) :
    ∃ r before after, readings = before ++ r :: after ∧ r.ticket? = some ticket ∧ r.id = id ∧
      Reading.outcome? deliveries ticket = none := by
  have hmem : (ticket, id) ∈ waiting := by
    obtain ⟨_, _, rfl, -⟩ := List.lookup_eq_some_iff.mp hd
    simp
  rw [h.waiting_eq] at hmem
  obtain ⟨r, hr, hpending⟩ := List.mem_filterMap.mp hmem
  obtain ⟨before, after, hsplit⟩ := List.append_of_mem hr
  rw [Reading.pending?] at hpending
  split at hpending
  · cases hpending
  · rename_i found hticket
    split at hpending
    · cases hpending
    · rename_i hunknown
      cases hpending
      exact ⟨r, before, after, hsplit, hticket, rfl, by simpa using hunknown⟩

/-- No two lines have the same ticket. -/
lemma ticket?_ne_of_split (h : Books readings deliveries waiting output tickets) {r : Reading}
    {before after : List Reading} (hsplit : readings = before ++ r :: after) {ticket : Nat}
    (hr : r.ticket? = some ticket) : ∀ q ∈ before ++ after, q.ticket? ≠ some ticket := by
  intro q hq hqticket
  have hdistinct := h.distinct
  rw [hsplit, List.filterMap_append, List.filterMap_cons_some hr] at hdistinct
  have hnot := (List.nodup_middle.mp hdistinct).notMem
  rw [← List.filterMap_append] at hnot
  exact hnot (List.mem_filterMap.mpr ⟨q, hq, hqticket⟩)

/-- The line whose outcome is answered: there is the given room for its response, and a job has been
started for it or it is the last one. -/
def Placed (readings : List Reading) (ticket room : Nat) : Prop :=
  ∀ r ∈ readings, r.ticket? = some ticket →
    r.room = room ∧ (r.startsJob = true ∨ readings.getLast? = some r)

/-- An outcome is answered unless its response is lost, and it is waited for no longer. -/
lemma settle (h : Books readings deliveries waiting output tickets) {d : Delivery} {id : Document}
    {room : Nat} (hplaced : Placed readings d.ticket room)
    (hd : waiting.lookup d.ticket = some id) :
    Books readings (deliveries ++ [d]) (waiting.filter (·.1 != d.ticket))
      (output ++ (settled? room id d.outcome).toList.map Response.line) tickets := by
  -- The line with this ticket had no response yet, and the other lines keep what they have.
  obtain ⟨r, before, after, hsplit, hr, rfl, hunknown⟩ := h.exists_reading hd
  have hothers := h.ticket?_ne_of_split hsplit hr
  have hmem : r ∈ readings := hsplit ▸ List.mem_append_right _ List.mem_cons_self
  obtain ⟨rfl, hplace⟩ := hplaced r hmem hr
  have hentry : r.answered? deliveries = none := by
    simp [Reading.answered?, Reading.reply?, hr, hunknown]
  have hentry' : r.answered? (deliveries ++ [d]) =
      (settled? r.room r.id d.outcome).map (r, ·) := by
    simp [Reading.answered?, Reading.reply?, hr, Reading.outcome?_concat, hunknown]
  have hbefore : entries before (deliveries ++ [d]) = entries before deliveries :=
    List.filterMap_congr fun q hq => answered?_concat_of_ne (hothers q (List.mem_append_left _ hq))
  have hafter : entries after (deliveries ++ [d]) = entries after deliveries :=
    List.filterMap_congr fun q hq => answered?_concat_of_ne (hothers q (List.mem_append_right _ hq))
  have hold : entries readings deliveries =
      entries before deliveries ++ entries after deliveries := by
    rw [hsplit, entries, List.filterMap_append, List.filterMap_cons_none hentry]
    rfl
  refine ⟨?_, h.distinct, h.bounded, ?_, ?_⟩
  · rw [h.waiting_eq, List.filter_filterMap]
    exact List.filterMap_congr fun q _ => pending?_concat q d
  · rw [List.forall_mem_append, List.forall_mem_singleton]
    exact ⟨h.delivered, h.bounded r hmem _ hr⟩
  · cases hsettled : settled? r.room r.id d.outcome with
    | none =>
      rw [hsettled] at hentry'
      have hnew : entries readings (deliveries ++ [d]) = entries readings deliveries := by
        rw [hold, hsplit, entries, List.filterMap_append, List.filterMap_cons_none hentry']
        exact congrArg₂ _ hbefore hafter
      rw [hnew, Option.toList_none, List.map_nil, List.append_nil]
      exact h.written
    | some response =>
      rw [hsettled] at hentry'
      have hnew : entries readings (deliveries ++ [d]) =
          entries before deliveries ++ (r, response) :: entries after deliveries := by
        rw [hsplit, entries, List.filterMap_append, List.filterMap_cons_some hentry']
        exact congrArg₂ _ hbefore (congrArg _ hafter)
      rw [hnew, Option.toList_some, List.map_singleton]
      -- The response is written last, but its line has its place among the others.  That is the
      -- last one, or else a job has been started for it and its place does not matter.
      refine h.written.concat (r, response) ?_ ?_
      · rw [hold, List.append_assoc]
        exact List.perm_append_comm.append_left _
      · rw [hold]
        rcases hplace with hstarts | hlast
        · simp [atOnce, hstarts]
        · have hnil : after = [] := by
            rw [hsplit] at hlast
            exact eq_nil_of_getLast?_append_cons hlast fun hr' =>
              hothers r (List.mem_append_right _ hr') hr
          rw [hnil]
          simp [entries]

end Books

end DubCheck.Service
