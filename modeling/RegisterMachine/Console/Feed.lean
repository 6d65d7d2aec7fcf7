import RegisterMachine.Bytes

/-! Inputs that arrive in pieces. -/

namespace RegisterMachine

inductive Trouble where
  | finished
  | broken
  | stalled
  | directory (name : Bytes)
  deriving DecidableEq, Repr

def Trouble.message : Trouble → Bytes
  | .finished => utf8 "EOF"
  | .broken => utf8 "broken"
  | .stalled => utf8 "multiple Read calls return no data or error"
  | .directory name => utf8 "read " ++ name ++ utf8 ": is a directory"

/-- What an input has still to give: one piece a request, then its trouble for ever. -/
structure Feed where
  pieces : List Bytes
  ending : Trouble
  deriving DecidableEq, Repr

namespace Feed

def ofBytes (text : Bytes) : Feed where
  pieces := if text.isEmpty then [] else [text]
  ending := .finished

/-- Asks for at most `space` bytes. A longer piece keeps its rest for later. -/
def request (feed : Feed) (space : Nat) : Except Trouble Bytes × Feed :=
  match feed.pieces with
  | [] => (.error feed.ending, feed)
  | piece :: rest =>
      if piece.length ≤ space then (.ok piece, { feed with pieces := rest })
      else (.ok (piece.take space), { feed with pieces := piece.drop space :: rest })

def remaining (feed : Feed) : Nat :=
  feed.pieces.flatten.length

theorem remaining_of_request {feed after : Feed} {space : Nat} {bytes : Bytes}
    (h : feed.request space = (.ok bytes, after)) :
    bytes.length + after.remaining = feed.remaining := by
  unfold request at h
  split at h
  · simp at h
  · rename_i piece rest pieces
    split at h
    · obtain ⟨rfl, rfl⟩ := by simpa using h
      simp [remaining, pieces]
    · obtain ⟨rfl, rfl⟩ := by simpa using h
      simp [remaining, pieces]
      omega

theorem remaining_of_request_error {feed after : Feed} {space : Nat} {trouble : Trouble}
    (h : feed.request space = (.error trouble, after)) : after = feed := by
  unfold request at h
  split at h
  · simp_all
  · split at h <;> simp at h

end Feed

end RegisterMachine
