import CollectionMarker.Marker.Event
import CollectionMarker.Proofs.Text.Quoted

/-! Reading the log back. A message is one line, whatever the directory is called, and it tells the kind of the
event, the directory, the collections and the text of the error: no name of a directory can pass for the rest of a
message. -/

namespace CollectionMarker

open Text

theorem Collection.name_inj {c d : Collection} (h : c.name = d.name) : c = d := by
  simpa using congrArg Collection.ofName? h

theorem Collection.oneLine_name (c : Collection) : OneLine c.name := by
  cases c <;> decide

theorem Collection.comma_not_mem_name (c : Collection) : ',' ∉ c.name.toList := by
  cases c <;> decide

namespace Event

variable {event other : Event}

/-- What a message tells: the kind of the event, and the texts that go with the kind. -/
inductive Account
  | tagged (dir : String) (stored : Collection)
  | checked (dir : String) (stored requested : Collection)
  | syncUnsupported (dir reason : String)
  deriving DecidableEq

def account : Event → Account
  | .tagged dir stored => .tagged dir stored
  | .checked dir stored requested => .checked dir stored requested
  | .syncUnsupported dir reason => .syncUnsupported dir reason.message

def reasonText : Event → String
  | .tagged .. | .checked .. => ""
  | .syncUnsupported _ reason => reason.message

/-! ## Messages, with what follows the directory's name set apart -/

theorem message_tagged (dir : String) (stored : Collection) :
    (tagged dir stored).message = "Tagged data directory " ++ (quoted dir ++ (" as " ++ stored.name)) := by
  simp only [← String.append_assoc]
  rfl

theorem message_checked (dir : String) (stored requested : Collection) :
    (checked dir stored requested).message = "Data directory " ++
      (quoted dir ++ (" is tagged " ++ (stored.name ++ (", requested " ++ requested.name)))) := by
  simp only [← String.append_assoc]
  rfl

theorem message_syncUnsupported (dir : String) (reason : IoError) :
    (syncUnsupported dir reason).message =
      "Directory sync unsupported for " ++ (quoted dir ++ (": " ++ reason.message)) := by
  simp only [← String.append_assoc]
  rfl

theorem oneLine_message (h : OneLine event.reasonText) : OneLine event.message := by
  cases event with
  | tagged dir stored =>
    have hlead : OneLine "Tagged data directory " := by decide
    have has : OneLine " as " := by decide
    rw [message_tagged]
    exact hlead.append ((oneLine_quoted dir).append (has.append stored.oneLine_name))
  | checked dir stored requested =>
    have hlead : OneLine "Data directory " := by decide
    have htagged : OneLine " is tagged " := by decide
    have hrequested : OneLine ", requested " := by decide
    rw [message_checked]
    exact hlead.append ((oneLine_quoted dir).append (htagged.append (stored.oneLine_name.append
      (hrequested.append requested.oneLine_name))))
  | syncUnsupported dir reason =>
    have hlead : OneLine "Directory sync unsupported for " := by decide
    have hcolon : OneLine ": " := by decide
    rw [message_syncUnsupported]
    exact hlead.append ((oneLine_quoted dir).append (hcolon.append h))

/-- The first comma behind the quoted directory ends the name of the stored collection. -/
theorem names_inj {s s' r r' : Collection}
    (h : s.name ++ (", requested " ++ r.name) = s'.name ++ (", requested " ++ r'.name)) : s = s' ∧ r = r' := by
  have hlist := congrArg String.toList h
  simp only [String.toList_append] at hlist
  obtain ⟨hstored, hrest⟩ := append_cons_inj s.comma_not_mem_name s'.comma_not_mem_name hlist
  refine ⟨Collection.name_inj (String.toList_inj.1 hstored), Collection.name_inj (String.toList_inj.1 ?_)⟩
  simpa using hrest

theorem account_eq_of_message_eq (h : event.message = other.message) : event.account = other.account := by
  cases event with
  | tagged dir stored =>
    cases other with
    | tagged dir' stored' =>
      rw [message_tagged, message_tagged, String.append_right_inj] at h
      obtain ⟨rfl, hrest⟩ := quoted_append_inj h
      rw [Collection.name_inj ((String.append_right_inj _).1 hrest)]
    | checked | syncUnsupported =>
      simp [message_tagged, message_checked, message_syncUnsupported, ← String.toList_inj] at h
  | checked dir stored requested =>
    cases other with
    | checked dir' stored' requested' =>
      rw [message_checked, message_checked, String.append_right_inj] at h
      obtain ⟨rfl, hrest⟩ := quoted_append_inj h
      obtain ⟨rfl, rfl⟩ := names_inj ((String.append_right_inj _).1 hrest)
      rfl
    | tagged | syncUnsupported =>
      simp [message_tagged, message_checked, message_syncUnsupported, ← String.toList_inj] at h
  | syncUnsupported dir reason =>
    cases other with
    | syncUnsupported dir' reason' =>
      rw [message_syncUnsupported, message_syncUnsupported, String.append_right_inj] at h
      obtain ⟨rfl, hrest⟩ := quoted_append_inj h
      rw [account, account, (String.append_right_inj _).1 hrest]
    | tagged | checked =>
      simp [message_tagged, message_checked, message_syncUnsupported, ← String.toList_inj] at h

theorem message_eq_of_account_eq (h : event.account = other.account) : event.message = other.message := by
  cases event with
  | tagged dir stored =>
    cases other with
    | tagged => obtain ⟨rfl, rfl⟩ := Account.tagged.inj h; rfl
    | checked | syncUnsupported => cases h
  | checked dir stored requested =>
    cases other with
    | checked => obtain ⟨rfl, rfl, rfl⟩ := Account.checked.inj h; rfl
    | tagged | syncUnsupported => cases h
  | syncUnsupported dir reason =>
    cases other with
    | syncUnsupported =>
      obtain ⟨rfl, hreason⟩ := Account.syncUnsupported.inj h
      rw [message_syncUnsupported, message_syncUnsupported, hreason]
    | tagged | checked => cases h

/-- The characters that have no place on a line, C0 and C1 and the delete. -/
def isControl (c : Char) : Bool := c.toNat < 0x20 || (0x7F ≤ c.toNat && c.toNat < 0xA0)

theorem oneLine_of_not_isControl {text : String} (h : ∀ x ∈ text.toList, isControl x = false) : OneLine text := by
  have hbreaks : lineBreaks.all isControl = true := by decide
  intro x hx hbreak
  have hcontrol := List.all_eq_true.1 hbreaks x hbreak
  simp [h x hx] at hcontrol

/-- The message of an event is one line, if the text of the error that it may report holds no control character; the
directory may have any name. Two events have the same message exactly if they are of one kind and agree on the
directory, the collections and the error's text. -/
theorem log_line_tells_event (event other : Event) :
    ((∀ x ∈ event.reasonText.toList, isControl x = false) → OneLine event.message) ∧
    (event.message = other.message ↔ event.account = other.account) :=
  ⟨fun h => oneLine_message (oneLine_of_not_isControl h), account_eq_of_message_eq, message_eq_of_account_eq⟩

example : (tagged "a\" as queue\n" .stack).message = "Tagged data directory \"a\\\" as queue\\n\" as stack" := by
  decide +kernel

end Event
end CollectionMarker
