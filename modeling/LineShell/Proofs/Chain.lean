import LineShell.Proofs.Catalog

/-!
# Chains

A line does at the desk what its statements do one after the other, whichever way it is read. So two
lines with a semicolon between them do what they do as two lines.
-/

namespace LineShell

open Terminal Text

/-! ## Bookkeeping does not reach the desk -/

theorem desk_append (line : String) (t : Terminal) : (t.append line).desk = t.desk := (Told.append line t).desk

theorem desk_echo (text : String) (t : Terminal) : (Registry.echo text t).desk = t.desk := by
  simp only [Registry.echo, desk_note, desk_append]
  rfl

theorem desk_record (output : String) (t : Terminal) : (t.record output).desk = t.desk := by
  unfold Terminal.record
  split
  · rfl
  · exact desk_append output t

theorem desk_resetCursor (t : Terminal) : (t.modifySession .resetCursor).desk = t.desk := rfl

/-! ## Lines as their statements -/

namespace Registry

/-- Runs the statements of a text, without the bookkeeping of a line. -/
def runText (r : Registry) (text : String) (t : Terminal) : String × Terminal :=
  let (outputs, t) := r.runStatements (readings text) t
  (unlines outputs, t)

variable {r : Registry}

theorem runText_eq (r : Registry) {text : String} {statements : List Statement} (h : readings text = statements)
    (t : Terminal) :
    r.runText text t = (unlines (r.runStatements statements t).1, (r.runStatements statements t).2) := by
  rw [runText, h]

theorem runText_append (r : Registry) {a b : String} (ha : segments a ≠ []) (hb : segments b ≠ [])
    (t : Terminal) :
    r.runText (a ++ ";" ++ b) t =
      ((r.runText a t).1 ++ "\n" ++ (r.runText b (r.runText a t).2).1, (r.runText b (r.runText a t).2).2) := by
  have hspoken : ∀ {text : String} (u : Terminal),
      segments text ≠ [] → (r.runStatements (readings text) u).1 ≠ [] := by
    intro text u h he
    have hlength := r.length_runStatements (readings text) u
    rw [he, List.length_nil, eq_comm, List.length_eq_zero_iff, readings_eq_nil_iff] at hlength
    exact h hlength
  rw [runText_eq r (readings_append a b), runStatements_append, unlines_append (hspoken _ ha) (hspoken _ hb)]
  rfl

theorem agree_readings (hr : ∀ name, name ≠ "history" → Agree desk r r name) {text : String}
    (h : ∀ segment ∈ segments text, firstCommand segment ≠ "history") :
    ∀ statement ∈ readings text, Agree desk r r statement.first.name := by
  intro statement hs
  obtain ⟨segment, hmem, rfl⟩ := List.mem_map.mp hs
  rw [Statement.first_parse]
  exact hr _ (h segment hmem)

theorem runText_same (hr : ∀ name, name ≠ "history" → Agree desk r r name) {text : String}
    (h : ∀ segment ∈ segments text, firstCommand segment ≠ "history") {t u : Terminal} (ht : t.desk = u.desk) :
    Same desk (r.runText text t) (r.runText text u) := by
  obtain ⟨htexts, hdesk⟩ := runStatements_same desk_noteAll rfl (agree_readings hr h) ht
  simp only [runText]
  exact ⟨by rw [htexts], hdesk⟩

variable (entries : List FileEntry) (endpoints : Endpoints)

/-- A line with statements says what they say and leaves the desk as they leave it. -/
theorem execute_same {typed : String} (hne : segments typed ≠ [])
    (h : ∀ segment ∈ segments typed, firstCommand segment ≠ "history") {t u : Terminal} (ht : t.desk = u.desk) :
    Same desk ((standard entries endpoints).execute typed t) ((standard entries endpoints).runText typed u) := by
  have hreadings : readings typed ≠ [] := fun he => hne ((readings_eq_nil_iff typed).mp he)
  have hsame := fun {t u : Terminal} (ht : t.desk = u.desk) =>
    runText_same (r := standard entries endpoints) (fun _ => agree_standard entries endpoints) h ht
  by_cases hc : strip typed = clearWord
  · obtain ⟨c, hfind, -⟩ := find?_standard_clear entries endpoints
    have hclear : (standard entries endpoints).runText typed t = (standard entries endpoints).runClear t := by
      rw [runText_eq _ (readings_of_clear hc), runClear, hfind]
      simp only [runStatements, runStatement, get_of_some hfind, unlines_singleton]
    obtain ⟨htext, hdesk⟩ := hsame ht
    rw [execute_of_clear _ hc]
    rw [hclear] at htext hdesk
    exact ⟨htext, hdesk⟩
  · obtain ⟨htext, hdesk⟩ := hsame ((desk_echo (strip typed) t).trans ht)
    rw [execute_of_run _ (strip_ne_empty hreadings) hc]
    refine ⟨htext, ?_⟩
    rw [desk_resetCursor, desk_record]
    exact hdesk

/-! ## Two lines -/

theorem execute_same_of_segments {a b : String} (hab : segments a = segments b) (hne : segments a ≠ [])
    (h : ∀ segment ∈ segments a, firstCommand segment ≠ "history") (t : Terminal) :
    Same desk ((standard entries endpoints).execute a t) ((standard entries endpoints).execute b t) := by
  have hfirst := execute_same entries endpoints hne h (rfl : t.desk = t.desk)
  have hsecond := execute_same entries endpoints (hab ▸ hne) (hab ▸ h) (rfl : t.desk = t.desk)
  have hreadings : readings b = readings a := by rw [readings, readings, hab]
  rw [runText_eq _ hreadings] at hsecond
  exact hfirst.trans hsecond.symm

/-- Two lines with a semicolon between them say what both say one after the other, and leave the desk, with
the directory and the requests, as both leave it. A line without statements adds nothing. -/
theorem execute_chain (a b : String) (t : Terminal)
    (ha : ∀ segment ∈ segments a, firstCommand segment ≠ "history")
    (hb : ∀ segment ∈ segments b, firstCommand segment ≠ "history") :
    let r := standard entries endpoints
    let both := r.execute (a ++ ";" ++ b) t
    let first := r.execute a t
    let second := r.execute b first.2
    let alone := r.execute b t
    (segments a ≠ [] → segments b ≠ [] → both.1 = first.1 ++ "\n" ++ second.1 ∧
      both.2.session.directory = second.2.session.directory ∧ both.2.sent = second.2.sent ∧
      both.2.desk = second.2.desk) ∧
    (segments a ≠ [] → segments b = [] → both.1 = first.1 ∧
      both.2.session.directory = first.2.session.directory ∧ both.2.sent = first.2.sent ∧
      both.2.desk = first.2.desk) ∧
    (segments a = [] → segments b ≠ [] → both.1 = alone.1 ∧
      both.2.session.directory = alone.2.session.directory ∧ both.2.sent = alone.2.sent ∧
      both.2.desk = alone.2.desk) := by
  intro r both first second alone
  have hparts : ∀ {x y : Terminal}, x.desk = y.desk →
      x.session.directory = y.session.directory ∧ x.sent = y.sent ∧ x.desk = y.desk :=
    fun h => ⟨congrArg Desk.directory h, congrArg Desk.sent h, h⟩
  refine ⟨fun hna hnb => ?_, fun hna hnb => ?_, fun hna hnb => ?_⟩
  · have hab : ∀ segment ∈ segments (a ++ ";" ++ b), firstCommand segment ≠ "history" := by
      rw [segments_append]
      exact List.forall_mem_append.mpr ⟨ha, hb⟩
    have hne : segments (a ++ ";" ++ b) ≠ [] := by
      rw [segments_append]
      exact List.append_ne_nil_of_left_ne_nil hna _
    -- lines and statements agree on the desk alone, so the second line starts from the desk of the first
    have hfirst := execute_same entries endpoints hna ha (rfl : t.desk = t.desk)
    have hsecond := execute_same entries endpoints hnb hb hfirst.2
    obtain ⟨htext, hdesk⟩ := execute_same entries endpoints hne hab (rfl : t.desk = t.desk)
    rw [runText_append r hna hnb] at htext hdesk
    exact ⟨by rw [htext, hfirst.1, hsecond.1], hparts (hdesk.trans hsecond.2.symm)⟩
  · have hab : segments a = segments (a ++ ";" ++ b) := by rw [segments_append, hnb, List.append_nil]
    obtain ⟨htext, hdesk⟩ := execute_same_of_segments entries endpoints hab hna ha t
    exact ⟨htext.symm, hparts hdesk.symm⟩
  · have hab : segments b = segments (a ++ ";" ++ b) := by rw [segments_append, hna, List.nil_append]
    obtain ⟨htext, hdesk⟩ := execute_same_of_segments entries endpoints hab hnb hb t
    exact ⟨htext.symm, hparts hdesk.symm⟩

theorem execute_chain_clear :
    ((standard [] ⟨"/api", "/entities", "here"⟩).execute "clear;cd nowhere; nope | wc" {}).1 =
      "\ncd: nowhere: No such file or directory\n1   4   25" := by
  have hfirst : ∀ segment ∈ segments "clear", firstCommand segment ≠ "history" := by decide +kernel
  have hsecond : ∀ segment ∈ segments "cd nowhere; nope | wc", firstCommand segment ≠ "history" := by
    decide +kernel
  have h := (execute_chain [] ⟨"/api", "/entities", "here"⟩ "clear" "cd nowhere; nope | wc" {} hfirst hsecond).1
    (by decide +kernel) (by decide +kernel)
  exact h.1.trans (by decide +kernel)

end Registry

end LineShell
