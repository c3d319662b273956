import JobWatch.CommandLine.Program
import JobWatch.Proofs.Client.Requests
import JobWatch.Proofs.Poll.Runs

/-! What a list of effects says about requests, output and files, and what the notice of an
interrupt does to it.
-/

namespace JobWatch.CommandLine

namespace Effect

variable {Asked Event : Type}

/-- Text on one of the two streams. -/
def isText : Effect → Bool
  | .out _ | .err _ => true
  | .request _ | .store _ _ => false

@[simp]
theorem requests_append (before after : List Effect)
    : requests (before ++ after) = requests before ++ requests after :=
  List.filterMap_append

@[simp]
theorem requests_request (sent : Http.Request) (effects : List Effect)
    : requests (.request sent :: effects) = sent :: requests effects :=
  rfl

/-- A list of texts asks for nothing. -/
theorem requests_texts {effects : List Effect} (texts : ∀ effect ∈ effects, effect.isText)
    : requests effects = [] := by
  refine List.filterMap_eq_nil_iff.mpr fun effect member => ?_
  cases effect with
  | out | err | store => rfl
  | request => simpa [isText] using texts _ member

@[simp]
theorem requests_sent (sent : List Http.Request)
    : requests (sent.map .request) = sent := by
  induction sent with
  | nil => rfl
  | cons first rest ih => simpa using ih

@[simp]
theorem files_append (before after : List Effect)
    : files (before ++ after) = files before ++ files after :=
  List.filterMap_append

/-- A list of texts keeps no file. -/
theorem files_texts {effects : List Effect} (texts : ∀ effect ∈ effects, effect.isText)
    : files effects = [] := by
  refine List.filterMap_eq_nil_iff.mpr fun effect member => ?_
  cases effect with
  | out | err | request => rfl
  | store => simpa [isText] using texts _ member

@[simp]
theorem files_sent (sent : List Http.Request) : files (sent.map .request) = [] := by
  induction sent with
  | nil => rfl
  | cons first rest ih => simp [files]

@[simp]
theorem output_append (before after : List Effect)
    : output (before ++ after) = output before ++ output after := by
  simp [output, List.filterMap_append]

@[simp]
theorem output_sent (sent : List Http.Request) : output (sent.map .request) = "" := by
  induction sent with
  | nil => rfl
  | cons first rest ih =>
      rw [List.map_cons, ← List.singleton_append, output_append, ih]
      rfl

@[simp]
theorem diagnostics_append (before after : List Effect)
    : diagnostics (before ++ after) = diagnostics before ++ diagnostics after := by
  simp [diagnostics, List.filterMap_append]

@[simp]
theorem diagnostics_sent (sent : List Http.Request) : diagnostics (sent.map .request) = "" := by
  induction sent with
  | nil => rfl
  | cons first rest ih =>
      rw [List.map_cons, ← List.singleton_append, diagnostics_append, ih]
      rfl

@[simp]
theorem ofSteps_append (request : Asked → Option Http.Request) (event : Event → Effect)
    (before after : List (Poll.Step Asked Event))
    : ofSteps request event (before ++ after)
        = ofSteps request event before ++ ofSteps request event after :=
  List.flatMap_append

@[simp]
theorem ofSteps_request (request : Asked → Option Http.Request) (event : Event → Effect)
    (asked : Asked) (steps : List (Poll.Step Asked Event))
    : ofSteps request event (.request asked :: steps)
        = (request asked).toList.map .request ++ ofSteps request event steps :=
  rfl

@[simp]
theorem ofSteps_event (request : Asked → Option Http.Request) (event : Event → Effect)
    (told : Event) (steps : List (Poll.Step Asked Event))
    : ofSteps request event (.event told :: steps)
        = event told :: ofSteps request event steps :=
  rfl

@[simp]
theorem ofSteps_events (request : Asked → Option Http.Request) (event : Event → Effect)
    (events : List Event)
    : ofSteps request event (events.map .event) = events.map event := by
  induction events with
  | nil => rfl
  | cons first rest ih => simpa using ih

variable {request : Asked → Option Http.Request} {event : Event → Effect}

/-- A loop that only shows text sends its requests, and these alone. -/
theorem requests_ofSteps (texts : ∀ told, (event told).isText)
    (steps : List (Poll.Step Asked Event))
    : requests (ofSteps request event steps) = (Poll.requests steps).filterMap request := by
  induction steps with
  | nil => rfl
  | cons step rest ih =>
      cases step with
      | request asked =>
          rw [ofSteps_request, requests_append, requests_sent, ih, Poll.requests_request,
            List.filterMap_cons]
          cases request asked <;> rfl
      | event told =>
          have silent : requests [event told] = [] :=
            requests_texts (List.forall_mem_singleton.mpr (texts told))
          rw [ofSteps_event, ← List.singleton_append, requests_append, silent, ih]
          rfl
      | wait continues => exact ih

/-- All that can be sent is sent, by induction. -/
theorem map_some_sent {asked : List Asked} (sends : ∀ one ∈ asked, (request one).isSome)
    : (asked.filterMap request).map some = asked.map request := by
  induction asked with
  | nil => rfl
  | cons first rest ih =>
      obtain ⟨sent, isSent⟩ := Option.isSome_iff_exists.mp (sends first List.mem_cons_self)
      rw [List.filterMap_cons_some isSent, List.map_cons, List.map_cons, isSent,
        ih fun one member => sends one (List.mem_cons_of_mem _ member)]

/-- A loop that only shows text keeps no file. -/
theorem files_ofSteps (texts : ∀ told, (event told).isText)
    (steps : List (Poll.Step Asked Event))
    : files (ofSteps request event steps) = [] := by
  induction steps with
  | nil => rfl
  | cons step rest ih =>
      cases step with
      | request asked => rw [ofSteps_request, files_append, files_sent, ih, List.append_nil]
      | event told =>
          have silent : files [event told] = [] :=
            files_texts (List.forall_mem_singleton.mpr (texts told))
          rw [ofSteps_event, ← List.singleton_append, files_append, silent, ih, List.append_nil]
      | wait continues => exact ih

/-- A loop puts out what it shows of its events. -/
theorem output_ofSteps (steps : List (Poll.Step Asked Event))
    : output (ofSteps request event steps) = output ((Poll.told steps).map event) := by
  induction steps with
  | nil => rfl
  | cons step rest ih =>
      cases step with
      | request asked =>
          rw [ofSteps_request, output_append, output_sent, ih, Poll.told_request,
            String.empty_append]
      | event told =>
          rw [ofSteps_event, Poll.told_event, List.map_cons, ← List.singleton_append,
            ← List.singleton_append (l := (Poll.told rest).map event), output_append,
            output_append, ih]
      | wait continues => exact ih

/-- A loop puts into diagnostics what it shows there of its events. -/
theorem diagnostics_ofSteps (steps : List (Poll.Step Asked Event))
    : diagnostics (ofSteps request event steps)
        = diagnostics ((Poll.told steps).map event) := by
  induction steps with
  | nil => rfl
  | cons step rest ih =>
      cases step with
      | request asked =>
          rw [ofSteps_request, diagnostics_append, diagnostics_sent, ih, Poll.told_request,
            String.empty_append]
      | event told =>
          rw [ofSteps_event, Poll.told_event, List.map_cons, ← List.singleton_append,
            ← List.singleton_append (l := (Poll.told rest).map event), diagnostics_append,
            diagnostics_append, ih]
      | wait continues => exact ih

end Effect

/-- A text is painted only with colors. -/
theorem Palette.paint_plain {palette : Palette} (plain : palette.colors = false) (style : Style)
    (text : String)
    : palette.paint style text = text := by
  rw [paint, plain]
  rfl

/-- A style is turned on again in texts that turn styles off, and nowhere else. -/
theorem turnOnAgain_eq (style : List Char) {text : List Char} (unstyled : '\x1b' ∉ text)
    : turnOnAgain style text = text := by
  induction text using turnOnAgain.induct with
  | case1 rest ih => exact absurd List.mem_cons_self unstyled
  | case2 c rest other ih =>
      rw [turnOnAgain, ih fun member => unstyled (List.mem_cons_of_mem c member)]
      exact other
  | case3 => rfl

/-- A painted text is told from others in the same style. -/
theorem Palette.paint_injective {palette : Palette} {style : Style} {text other : String}
    (unstyled : '\x1b' ∉ text.toList) (otherUnstyled : '\x1b' ∉ other.toList)
    (same : palette.paint style text = palette.paint style other)
    : text = other := by
  cases colors : palette.colors with
  | false =>
      rw [paint_plain colors, paint_plain colors] at same
      exact same
  | true =>
      simp only [paint, colors, if_true, turnOnAgain_eq _ unstyled,
        turnOnAgain_eq _ otherUnstyled] at same
      have same := String.ofList_injective same
      exact String.toList_inj.mp (List.append_cancel_left (List.append_cancel_right same))

/-- A report is another one with the notice of an interrupt right behind a request, counted from
one.
-/
def NoticedAt (palette : Palette) (count : Nat) (plain noticed : Report) : Prop :=
  ∃ before sent after,
    plain.effects = before ++ .request sent :: after
    ∧ (Effect.requests before).length + 1 = count
    ∧ noticed.effects = before ++ .request sent :: Interrupt.notice palette :: after
    ∧ noticed.status = plain.status

/-- Effects are split behind the request that is counted, by induction on those before it. -/
theorem splitAt_request (before after : List Effect) (sent : Http.Request)
    : Interrupt.splitAt ((Effect.requests before).length + 1) (before ++ .request sent :: after)
        = some (before ++ [.request sent], after) := by
  induction before with
  | nil => rfl
  | cons effect rest ih =>
      cases effect with
      | request first =>
          have more : ¬(Effect.requests rest).length + 1 + 1 ≤ 1 := by omega
          simp only [List.cons_append, Effect.requests_request, List.length_cons,
            Interrupt.splitAt, if_neg more, Nat.add_sub_cancel, ih, Option.map_some]
      | out | err | store =>
          simp only [List.cons_append, Interrupt.splitAt]
          rw [show Effect.requests (_ :: rest) = Effect.requests rest from rfl, ih]
          rfl

/-- A request that is counted from one stands somewhere, by induction on the effects. -/
theorem exists_request_at {effects : List Effect} {count : Nat} (positive : 1 ≤ count)
    (within : count ≤ (Effect.requests effects).length)
    : ∃ before sent after,
        effects = before ++ .request sent :: after
        ∧ (Effect.requests before).length + 1 = count := by
  induction effects generalizing count with
  | nil => simp [Effect.requests] at within; omega
  | cons effect rest ih =>
      cases effect with
      | request first =>
          rcases Nat.eq_or_lt_of_le positive with rfl | more
          · exact ⟨[], first, rest, rfl, rfl⟩
          · have later : 1 ≤ count - 1 := by omega
            have stillWithin : count - 1 ≤ (Effect.requests rest).length := by
              rw [Effect.requests_request, List.length_cons] at within
              omega
            obtain ⟨before, sent, after, rfl, counted⟩ := ih later stillWithin
            exact ⟨.request first :: before, sent, after, rfl, by simp; omega⟩
      | out | err | store =>
          obtain ⟨before, sent, after, rfl, counted⟩ := ih positive within
          exact ⟨_ :: before, sent, after, rfl, counted⟩

/-- A single interrupt puts its notice behind the request that is being answered. -/
theorem Interrupt.apply_effects (palette : Palette) {count : Nat} {report : Report}
    {before after : List Effect} {sent : Http.Request}
    (effects : report.effects = before ++ .request sent :: after)
    (counted : (Effect.requests before).length + 1 = count)
    : (Interrupt.apply palette ⟨count, false⟩ report).effects
      = before ++ .request sent :: Interrupt.notice palette :: after := by
  rw [Interrupt.apply, effects, ← counted, splitAt_request]
  simp

/-- A single interrupt adds its notice to a report, and nothing else. -/
theorem Interrupt.apply_noticed (palette : Palette) {count : Nat} {report : Report}
    (positive : 1 ≤ count) (within : count ≤ (Effect.requests report.effects).length)
    : NoticedAt palette count report (Interrupt.apply palette ⟨count, false⟩ report) := by
  obtain ⟨before, sent, after, effects, counted⟩ := exists_request_at positive within
  refine ⟨before, sent, after, effects, counted, apply_effects palette effects counted, ?_⟩
  rw [Interrupt.apply, effects, ← counted, splitAt_request]
  simp

namespace NoticedAt

variable {palette : Palette} {count : Nat} {plain noticed : Report}

/-- The notice is no request. -/
theorem requests_eq (at_request : NoticedAt palette count plain noticed)
    : Effect.requests noticed.effects = Effect.requests plain.effects := by
  obtain ⟨before, sent, after, effects, -, noticedEffects, -⟩ := at_request
  rw [effects, noticedEffects, Effect.requests_append, Effect.requests_append]
  rfl

/-- The notice is no output. -/
theorem output_eq (at_request : NoticedAt palette count plain noticed)
    : Effect.output noticed.effects = Effect.output plain.effects := by
  obtain ⟨before, sent, after, effects, -, noticedEffects, -⟩ := at_request
  rw [effects, noticedEffects, Effect.output_append, Effect.output_append]
  rfl

/-- The notice is no file. -/
theorem files_eq (at_request : NoticedAt palette count plain noticed)
    : Effect.files noticed.effects = Effect.files plain.effects := by
  obtain ⟨before, sent, after, effects, -, noticedEffects, -⟩ := at_request
  rw [effects, noticedEffects, Effect.files_append, Effect.files_append]
  rfl

theorem status_eq (at_request : NoticedAt palette count plain noticed)
    : noticed.status = plain.status := by
  obtain ⟨_, _, _, _, _, _, status⟩ := at_request
  exact status

end NoticedAt

end JobWatch.CommandLine
