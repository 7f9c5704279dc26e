import LineShell.EventBus

/-!
# Publication

What becomes of a message that is published, told as an account: the handlers in turn, what each did, and an account
of every publication among that. A publication comes to an end exactly if there is an account of it, and what it
leaves is what the account tells.
-/

namespace LineShell.EventBus

variable {η π : Type}

/-! ## Accounts -/

mutual

/-- What a handler did with a message, and how it ended. -/
inductive Story (η π : Type)
  | done
  | fail (text : String)
  | undo (label : String) (rest : Story η π)
  | subscribe (label topic : String) (handler : η) (rest : Story η π)
  | publish (topic : String) (payload : π) (round : Round η π) (rest : Story η π)

/-- The handlers that got a message, one after the other, and what each did. -/
inductive Round (η π : Type)
  | nil
  | cons (handler : η) (story : Story η π) (rest : Round η π)

end

def Round.handlers : Round η π → List η
  | .nil => []
  | .cons handler _ rest => handler :: rest.handlers

def Story.failure? : Story η π → Option String
  | .done => none
  | .fail text => some text
  | .undo _ rest | .subscribe _ _ _ rest | .publish _ _ _ rest => rest.failure?

mutual

def Story.deliveries : Story η π → List (η × π)
  | .done | .fail _ => []
  | .undo _ rest | .subscribe _ _ _ rest => rest.deliveries
  | .publish _ payload round rest => round.deliveries payload ++ rest.deliveries

/-- What was delivered: the message itself, and behind it what its handler led to. -/
def Round.deliveries : Round η π → π → List (η × π)
  | .nil, _ => []
  | .cons handler story rest, payload => (handler, payload) :: (story.deliveries ++ rest.deliveries payload)

end

mutual

def Story.edits : Story η π → List (Deed η π)
  | .done | .fail _ => []
  | .undo label rest => .undo label :: rest.edits
  | .subscribe label topic handler rest => .subscribe label topic handler :: rest.edits
  | .publish _ _ round rest => round.edits ++ rest.edits

def Round.edits : Round η π → List (Deed η π)
  | .nil => []
  | .cons _ story rest => story.edits ++ rest.edits

end

mutual

def Story.failures : Story η π → List (String × String)
  | .done | .fail _ => []
  | .undo _ rest | .subscribe _ _ _ rest => rest.failures
  | .publish topic _ round rest => round.failures topic ++ rest.failures

def Round.failures : Round η π → String → List (String × String)
  | .nil, _ => []
  | .cons _ story rest, topic =>
    story.failures ++ (story.failure?.toList.map (topic, ·) ++ rest.failures topic)

end

mutual

def Story.entries : Story η π → List Entry
  | .done | .fail _ => []
  | .undo _ rest | .subscribe _ _ _ rest => rest.entries
  | .publish topic _ round rest =>
    announcement topic round.handlers.length :: (round.entries topic ++ rest.entries)

def Round.entries : Round η π → String → List Entry
  | .nil, _ => []
  | .cons _ story rest, topic => story.entries ++ (story.failure?.toList.map (complaint topic) ++ rest.entries topic)

end

mutual

theorem Story.errors : (story : Story η π) →
    story.entries.filter (·.level == .error) = story.failures.map fun (topic, text) => complaint topic text
  | .done | .fail _ => rfl
  | .undo _ rest | .subscribe _ _ _ rest => rest.errors
  | .publish topic _ round rest => by
      have hround := round.errors topic
      have hrest := rest.errors
      simp only [Story.entries, Story.failures, List.map_append, ← hround, ← hrest]
      exact List.filter_append ..

theorem Round.errors : (round : Round η π) → (topic : String) →
    (round.entries topic).filter (·.level == .error) =
      (round.failures topic).map fun (topic, text) => complaint topic text
  | .nil, _ => rfl
  | .cons _ story rest, topic => by
      have hown : (story.failure?.toList.map (complaint topic)).filter (·.level == .error) =
          story.failure?.toList.map (complaint topic) := by
        cases story.failure? <;> rfl
      simp only [Round.entries, Round.failures, List.filter_append, List.map_append, List.map_map, story.errors,
        rest.errors topic, hown]
      rfl

end

/-! ## What an account leaves -/

section

variable [BEq η]

/-- Changes the registrations, if the deed is to do so. -/
def change (bus : EventBus η) : Deed η π → EventBus η
  | .undo label => bus.undo label
  | .subscribe label topic handler => bus.subscribe label topic handler
  | .fail _ | .publish .. => bus

namespace Traffic

def after (edits : List (Deed η π)) (deliveries : List (η × π)) (entries : List Entry) (t : Traffic η π) :
    Traffic η π where
  bus := edits.foldl change t.bus
  delivered := t.delivered ++ deliveries
  journal := t.journal ++ entries

def afterStory (story : Story η π) (t : Traffic η π) : Traffic η π :=
  t.after story.edits story.deliveries story.entries

def afterRound (topic : String) (payload : π) (round : Round η π) (t : Traffic η π) : Traffic η π :=
  t.after round.edits (round.deliveries payload) (round.entries topic)

def announced (topic : String) (handlers : List η) (t : Traffic η π) : Traffic η π :=
  t.after [] [] [announcement topic handlers.length]

def handed (handler : η) (payload : π) (t : Traffic η π) : Traffic η π := t.after [] [(handler, payload)] []

variable (t : Traffic η π)

theorem after_nil : t.after [] [] [] = t := by simp [after]

theorem after_after (edits edits' : List (Deed η π)) (deliveries deliveries' : List (η × π))
    (entries entries' : List Entry) : (t.after edits deliveries entries).after edits' deliveries' entries' =
      t.after (edits ++ edits') (deliveries ++ deliveries') (entries ++ entries') := by
  simp [after]

end Traffic

/-! ## Faithful accounts -/

variable (conduct : η → π → Traffic η π → Conduct η π)

mutual

/-- The story is what comes of the conduct of a handler, and it tells of each publication who got the message. -/
inductive Story.Follows : Conduct η π → Traffic η π → Story η π → Prop
  | done {t : Traffic η π} : Story.Follows .done t .done
  | fail {t : Traffic η π} {text : String} {next : Traffic η π → Conduct η π} :
      Story.Follows (.act (.fail text) next) t (.fail text)
  | undo {t : Traffic η π} {label : String} {next : Traffic η π → Conduct η π} {rest : Story η π}
      (hrest : Story.Follows (next (t.after [.undo label] [] [])) (t.after [.undo label] [] []) rest) :
      Story.Follows (.act (.undo label) next) t (.undo label rest)
  | subscribe {t : Traffic η π} {label topic : String} {handler : η} {next : Traffic η π → Conduct η π}
      {rest : Story η π}
      (hrest : Story.Follows (next (t.after [.subscribe label topic handler] [] []))
        (t.after [.subscribe label topic handler] [] []) rest) :
      Story.Follows (.act (.subscribe label topic handler) next) t (.subscribe label topic handler rest)
  | publish {t : Traffic η π} {topic : String} {payload : π} {next : Traffic η π → Conduct η π} {round : Round η π}
      {rest : Story η π} (hhandlers : round.handlers = t.bus.handlersOf topic)
      (hround : Round.Follows topic payload (t.announced topic round.handlers) round)
      (hrest : Story.Follows (next ((t.announced topic round.handlers).afterRound topic payload round))
        ((t.announced topic round.handlers).afterRound topic payload round) rest) :
      Story.Follows (.act (.publish topic payload) next) t (.publish topic payload round rest)

/-- Each handler got the message and did what its conduct makes of that, failing or not, one after the other. -/
inductive Round.Follows : String → π → Traffic η π → Round η π → Prop
  | nil {topic : String} {payload : π} {t : Traffic η π} : Round.Follows topic payload t .nil
  | cons {topic : String} {payload : π} {t : Traffic η π} {handler : η} {story : Story η π} {rest : Round η π}
      (hstory : Story.Follows (conduct handler payload (t.handed handler payload)) (t.handed handler payload) story)
      (hrest : Round.Follows topic payload
        (((t.handed handler payload).afterStory story).after [] [] (story.failure?.toList.map (complaint topic)))
        rest) :
      Round.Follows topic payload t (.cons handler story rest)

end

/-! ## Steps -/

variable {conduct}

section

variable {again : String → π → Traffic η π → Option (Traffic η π)} {topic label : String} {payload : π} {handler : η}
  {next : Traffic η π → Conduct η π} {story : Story η π} {round rest : Round η π} {t : Traffic η π}

theorem perform_undo : perform again (.act (.undo label) next) t =
    perform again (next (t.after [.undo label] [] [])) (t.after [.undo label] [] []) := by
  simp [perform, Traffic.after, change]

theorem perform_subscribe : perform again (.act (.subscribe label topic handler) next) t =
    perform again (next (t.after [.subscribe label topic handler] [] []))
      (t.after [.subscribe label topic handler] [] []) := by
  simp [perform, Traffic.after, change]

theorem deliver_eq : deliver conduct again topic payload t handler =
    (perform again (conduct handler payload (t.handed handler payload)) (t.handed handler payload)).map
      fun (u, failure) => u.after [] [] (failure.toList.map (complaint topic)) := by
  have hhanded : ({ t with delivered := t.delivered ++ [(handler, payload)] } : Traffic η π) =
      t.handed handler payload := by
    simp [Traffic.handed, Traffic.after]
  simp only [deliver, hhanded]
  split
  · rename_i h
    rw [h, Option.map_none]
  · rename_i u h
    rw [h]
    exact congrArg some u.after_nil.symm
  · rename_i u text h
    rw [h]
    simp [Traffic.after]

theorem publishAmong_succ (depth : Nat) : publishAmong conduct (depth + 1) topic payload t =
    (t.bus.handlersOf topic).foldlM (deliver conduct (publishAmong conduct depth) topic payload)
      (t.announced topic (t.bus.handlersOf topic)) := by
  simp [publishAmong, Traffic.announced, Traffic.after]

theorem afterStory_undo (story : Story η π) :
    t.afterStory (.undo label story) = (t.after [.undo label] [] []).afterStory story := by
  simp [Traffic.afterStory, Traffic.after_after, Story.edits, Story.deliveries, Story.entries]

theorem afterStory_subscribe (story : Story η π) : t.afterStory (.subscribe label topic handler story) =
    (t.after [.subscribe label topic handler] [] []).afterStory story := by
  simp [Traffic.afterStory, Traffic.after_after, Story.edits, Story.deliveries, Story.entries]

theorem afterStory_publish (story : Story η π) : t.afterStory (.publish topic payload round story) =
    ((t.announced topic round.handlers).afterRound topic payload round).afterStory story := by
  simp [Traffic.afterStory, Traffic.afterRound, Traffic.announced, Traffic.after_after, Story.edits, Story.deliveries,
    Story.entries]

theorem afterRound_cons : t.afterRound topic payload (.cons handler story rest) =
    (((t.handed handler payload).afterStory story).after [] [] (story.failure?.toList.map (complaint topic))).afterRound
      topic payload rest := by
  simp [Traffic.afterRound, Traffic.afterStory, Traffic.handed, Traffic.after_after, Round.edits, Round.deliveries,
    Round.entries]

end

/-! ## Handlers that leave the bus alone -/

def Conduct.still : Option String → Conduct η π
  | none => .done
  | some text => .act (.fail text) fun _ => .done

section

variable (outcome : η → π → Traffic η π → Option String) (topic : String) (payload : π)

theorem foldlM_deliver_still (again : String → π → Traffic η π → Option (Traffic η π)) (handlers : List η)
    (t : Traffic η π) : ∃ entries,
      handlers.foldlM (deliver (fun handler payload t => .still (outcome handler payload t)) again topic payload) t =
        some (t.after [] (handlers.map (·, payload)) entries) := by
  induction handlers generalizing t with
  | nil => exact ⟨[], congrArg some t.after_nil.symm⟩
  | cons handler rest ih =>
      let told := t.handed handler payload
      have hone : deliver (fun handler payload t => .still (outcome handler payload t)) again topic payload t handler =
          some (told.after [] [] ((outcome handler payload told).toList.map (complaint topic))) := by
        rw [deliver_eq]
        cases outcome handler payload (t.handed handler payload) <;> rfl
      obtain ⟨entries, hrest⟩ := ih (told.after [] [] ((outcome handler payload told).toList.map (complaint topic)))
      refine ⟨(outcome handler payload told).toList.map (complaint topic) ++ entries, ?_⟩
      rw [List.foldlM_cons, hone, Option.bind_eq_bind, Option.bind_some, hrest]
      simp [told, Traffic.handed, Traffic.after_after]

theorem publishAmong_still (depth : Nat) (t : Traffic η π) : ∃ entries,
    publishAmong (fun handler payload t => .still (outcome handler payload t)) (depth + 1) topic payload t =
      some (t.after [] ((t.bus.handlersOf topic).map (·, payload)) entries) := by
  obtain ⟨entries, h⟩ := foldlM_deliver_still outcome topic payload
    (publishAmong (fun handler payload t => .still (outcome handler payload t)) depth) (t.bus.handlersOf topic)
    (t.announced topic (t.bus.handlersOf topic))
  refine ⟨announcement topic (t.bus.handlersOf topic).length :: entries, ?_⟩
  rw [publishAmong]
  simpa [Traffic.announced, Traffic.after] using h

theorem publish_eq (bus : EventBus η) :
    (bus.publish topic payload).bus = bus ∧
    (bus.publish topic payload).delivered = (bus.handlersOf topic).map (·, payload) := by
  obtain ⟨entries, h⟩ := publishAmong_still (fun _ _ _ => none) topic payload 0 { bus }
  have hpublish : bus.publish topic payload = ({ bus } : Traffic η π).after [] ((bus.handlersOf topic).map (·, payload))
      entries := by
    rw [publish, publishWithin]
    exact congrArg (Option.getD · _) h
  rw [hpublish]
  exact ⟨rfl, List.nil_append _⟩

end

/-! ## Publications and their accounts -/

/-- The account is one of the publication of a message. -/
structure Round.IsOf (conduct : η → π → Traffic η π → Conduct η π) (topic : String) (payload : π) (t : Traffic η π)
    (round : Round η π) : Prop where
  handlers : round.handlers = t.bus.handlersOf topic
  follows : round.Follows conduct topic payload (t.announced topic round.handlers)

/-! ### From publications to accounts -/

section

variable {again : String → π → Traffic η π → Option (Traffic η π)}

theorem exists_story (hagain : ∀ {topic payload t u}, again topic payload t = some u →
      ∃ round, Round.IsOf conduct topic payload t round ∧
        u = (t.announced topic round.handlers).afterRound topic payload round)
    (c : Conduct η π) {t u : Traffic η π} {failure : Option String} (h : perform again c t = some (u, failure)) :
    ∃ story, Story.Follows conduct c t story ∧ u = t.afterStory story ∧ failure = story.failure? := by
  -- on the conduct, whose deeds the story tells; a publication has its account by `hagain`
  induction c generalizing t with
  | done =>
      cases h
      exact ⟨.done, .done, (Traffic.after_nil _).symm, rfl⟩
  | act deed next ih =>
      cases deed with
      | fail text =>
          cases h
          exact ⟨.fail text, .fail, (Traffic.after_nil _).symm, rfl⟩
      | undo label =>
          rw [perform_undo] at h
          obtain ⟨story, hfollows, hu, hfailure⟩ := ih _ h
          exact ⟨.undo label story, .undo hfollows, by rw [hu, afterStory_undo], hfailure⟩
      | subscribe label topic handler =>
          rw [perform_subscribe] at h
          obtain ⟨story, hfollows, hu, hfailure⟩ := ih _ h
          exact ⟨.subscribe label topic handler story, .subscribe hfollows, by rw [hu, afterStory_subscribe], hfailure⟩
      | publish topic payload =>
          rw [perform] at h
          split at h
          · cases h
          · rename_i v hround
            obtain ⟨round, hisOf, rfl⟩ := hagain hround
            obtain ⟨story, hfollows, hu, hfailure⟩ := ih _ h
            exact ⟨.publish topic payload round story, .publish hisOf.handlers hisOf.follows hfollows,
              by rw [hu, afterStory_publish], hfailure⟩

theorem exists_round_of_foldlM (hagain : ∀ {topic payload t u}, again topic payload t = some u →
      ∃ round, Round.IsOf conduct topic payload t round ∧
        u = (t.announced topic round.handlers).afterRound topic payload round)
    {topic : String} {payload : π} (handlers : List η) {t u : Traffic η π}
    (h : handlers.foldlM (deliver conduct again topic payload) t = some u) :
    ∃ round : Round η π, round.handlers = handlers ∧ round.Follows conduct topic payload t ∧
      u = t.afterRound topic payload round := by
  induction handlers generalizing t with
  | nil =>
      cases h
      exact ⟨.nil, rfl, .nil, (Traffic.after_nil _).symm⟩
  | cons handler handlers ih =>
      rw [List.foldlM_cons] at h
      obtain ⟨v, hone, hrest⟩ := Option.bind_eq_some_iff.mp h
      rw [deliver_eq] at hone
      obtain ⟨⟨w, failure⟩, hperform, rfl⟩ := Option.map_eq_some_iff.mp hone
      obtain ⟨story, hstory, rfl, rfl⟩ := exists_story hagain _ hperform
      obtain ⟨rest, rfl, hfollows, rfl⟩ := ih hrest
      exact ⟨.cons handler story rest, rfl, .cons hstory hfollows, afterRound_cons.symm⟩

end

/-- A publication that comes to an end has an account. -/
theorem exists_round {depth : Nat} {topic : String} {payload : π} {t u : Traffic η π}
    (h : publishAmong conduct depth topic payload t = some u) :
    ∃ round, Round.IsOf conduct topic payload t round ∧
      u = (t.announced topic round.handlers).afterRound topic payload round := by
  induction depth generalizing topic payload t u with
  | zero => cases h
  | succ depth ih =>
      rw [publishAmong_succ] at h
      obtain ⟨round, hhandlers, hfollows, hu⟩ := exists_round_of_foldlM ih _ h
      rw [← hhandlers] at hfollows hu
      exact ⟨round, ⟨hhandlers, hfollows⟩, hu⟩

/-! ### From accounts to publications -/

mutual

theorem Story.Follows.perform_eq : {c : Conduct η π} → {t : Traffic η π} → {story : Story η π} →
    Story.Follows conduct c t story → ∃ least, ∀ depth, least ≤ depth →
      perform (publishAmong conduct depth) c t = some (t.afterStory story, story.failure?)
  | _, t, _, .done => ⟨0, fun _ _ => congrArg (fun t => some (t, none)) t.after_nil.symm⟩
  | _, t, .fail text, .fail => ⟨0, fun _ _ => congrArg (fun t => some (t, some text)) t.after_nil.symm⟩
  | _, t, .undo label rest, .undo hrest => by
      obtain ⟨least, h⟩ := hrest.perform_eq
      refine ⟨least, fun depth hdepth => ?_⟩
      rw [perform_undo, h depth hdepth, afterStory_undo, Story.failure?]
  | _, t, .subscribe label topic handler rest, .subscribe hrest => by
      obtain ⟨least, h⟩ := hrest.perform_eq
      refine ⟨least, fun depth hdepth => ?_⟩
      rw [perform_subscribe, h depth hdepth, afterStory_subscribe, Story.failure?]
  | _, t, .publish topic payload round rest, .publish hhandlers hround hrest => by
      obtain ⟨leastRound, honRound⟩ := hround.foldlM_eq
      obtain ⟨leastRest, honRest⟩ := hrest.perform_eq
      -- a publication nests one deeper than its round, and what follows it does not
      refine ⟨max (leastRound + 1) leastRest, fun depth hdepth => ?_⟩
      obtain ⟨depth, rfl⟩ : ∃ d, depth = d + 1 := ⟨depth - 1, by omega⟩
      rw [perform, publishAmong_succ, ← hhandlers, honRound depth (by omega)]
      dsimp only
      rw [honRest (depth + 1) (by omega), afterStory_publish, Story.failure?]

theorem Round.Follows.foldlM_eq : {topic : String} → {payload : π} → {t : Traffic η π} → {round : Round η π} →
    Round.Follows conduct topic payload t round → ∃ least, ∀ depth, least ≤ depth →
      round.handlers.foldlM (deliver conduct (publishAmong conduct depth) topic payload) t =
        some (t.afterRound topic payload round)
  | _, _, t, _, .nil => ⟨0, fun _ _ => congrArg some t.after_nil.symm⟩
  | topic, payload, t, .cons handler story rest, .cons hstory hrest => by
      obtain ⟨leastStory, honStory⟩ := hstory.perform_eq
      obtain ⟨leastRest, honRest⟩ := hrest.foldlM_eq
      refine ⟨max leastStory leastRest, fun depth hdepth => ?_⟩
      rw [Round.handlers, List.foldlM_cons, deliver_eq, honStory depth (by omega), Option.map_some, Option.bind_eq_bind,
        Option.bind_some, honRest depth (by omega), afterRound_cons]

end

theorem Round.IsOf.exists_publishAmong {topic : String} {payload : π} {t : Traffic η π} {round : Round η π}
    (h : round.IsOf conduct topic payload t) : ∃ least, ∀ depth, least ≤ depth →
      publishAmong conduct (depth + 1) topic payload t =
        some ((t.announced topic round.handlers).afterRound topic payload round) := by
  obtain ⟨least, honRound⟩ := h.follows.foldlM_eq
  refine ⟨least, fun depth hdepth => ?_⟩
  rw [publishAmong_succ, ← h.handlers, honRound depth hdepth]

/-- How deep publications may nest decides whether there is a result, not which one. -/
theorem publishAmong_unique {depth depth' : Nat} {topic : String} {payload : π} {t u u' : Traffic η π}
    (h : publishAmong conduct depth topic payload t = some u)
    (h' : publishAmong conduct depth' topic payload t = some u') : u = u' := by
  obtain ⟨round, hround, rfl⟩ := exists_round h
  obtain ⟨round', hround', rfl⟩ := exists_round h'
  obtain ⟨least, hleast⟩ := hround.exists_publishAmong
  obtain ⟨least', hleast'⟩ := hround'.exists_publishAmong
  -- both results are the one that is there from the greater bound on
  have heq := hleast (max least least') (by omega)
  rw [hleast' (max least least') (by omega)] at heq
  exact (Option.some.inj heq).symm

/-- A publication comes to an end exactly if there is an account of it, and leaves what the account tells. The message
goes to the handlers that its topic had at the beginning, once for each registration and in their order, whatever they
do meanwhile; each failure is one error in the journal and keeps nobody from getting the message; and the
registrations at the end are those that the subscriptions and undos leave in the order in which they were performed. -/
theorem publishAmong_account (conduct : η → π → Traffic η π → Conduct η π) (topic : String) (payload : π)
    (t : Traffic η π) :
    (∀ u, (∃ depth, publishAmong conduct depth topic payload t = some u) ↔
      ∃ round : Round η π, round.handlers = t.bus.handlersOf topic ∧
        Round.Follows conduct topic payload (t.announced topic round.handlers) round ∧
        u.delivered = t.delivered ++ round.deliveries payload ∧
        u.bus = round.edits.foldl change t.bus ∧
        u.journal = t.journal ++ announcement topic round.handlers.length :: round.entries topic ∧
        (round.entries topic).filter (·.level == .error) =
          (round.failures topic).map fun (topic, text) => complaint topic text) ∧
    ∀ depth depth' u u', publishAmong conduct depth topic payload t = some u →
      publishAmong conduct depth' topic payload t = some u' → u = u' := by
  have hafter : ∀ round : Round η π, (t.announced topic round.handlers).afterRound topic payload round =
      t.after round.edits (round.deliveries payload)
        (announcement topic round.handlers.length :: round.entries topic) := by
    intro round
    simp [Traffic.afterRound, Traffic.announced, Traffic.after_after]
  refine ⟨fun u => ⟨?account, ?publication⟩, fun _ _ _ _ => publishAmong_unique⟩
  case account =>
    rintro ⟨depth, h⟩
    obtain ⟨round, hround, rfl⟩ := exists_round h
    rw [hafter]
    exact ⟨round, hround.handlers, hround.follows, rfl, rfl, rfl, round.errors topic⟩
  case publication =>
    rintro ⟨round, hhandlers, hfollows, hdelivered, hbus, hjournal, -⟩
    obtain ⟨least, hleast⟩ := Round.IsOf.exists_publishAmong ⟨hhandlers, hfollows⟩
    have hu : u = (t.announced topic round.handlers).afterRound topic payload round := by
      rw [hafter]
      obtain ⟨bus, delivered, journal⟩ := u
      obtain rfl : bus = _ := hbus
      obtain rfl : delivered = _ := hdelivered
      obtain rfl : journal = _ := hjournal
      rfl
    rw [hu]
    exact ⟨least + 1, hleast least (Nat.le_refl _)⟩

/-- A handler that ends the next one's subscription and makes a new one. -/
example :
    let deeds : String → Nat → List (Deed String Nat) := fun handler _ =>
      if handler == "a" then [.undo "2", .subscribe "3" "t" "c", .fail "no"] else []
    let bus := (({} : EventBus String).subscribe "1" "t" "a").subscribe "2" "t" "b"
    (publishWithin deeds 1 "t" 7 { bus }).map (fun u => (u.delivered, u.bus.handlersOf "t")) =
      some ([("a", 7), ("b", 7)], ["a", "c"]) := by decide +kernel

end

end LineShell.EventBus
