import Grumble.Wire.Bytes

namespace Grumble.Client

/-! # Sending the channel tree

`sendChannelList` sends a client that has just authenticated one
`ChannelState` per channel, through `sendChannelTree` from the root: the
channel's own message first, then the subtree of each child in turn, so the
messages come in depth-first pre-order (§4.g, "the full channel tree
(depth-first)"). Each message is read off its channel, except the description:
a client that cannot take a description hash is sent the description's text
from the blob store, and when the store cannot read the blob the server
panics with `"Blobstore error."`.
-/

def hexDigit (c : Char) : Option Nat :=
  if '0' ≤ c ∧ c ≤ '9' then some (c.toNat - '0'.toNat)
  else if 'a' ≤ c ∧ c ≤ 'f' then some (c.toNat - 'a'.toNat + 10)
  else if 'A' ≤ c ∧ c ≤ 'F' then some (c.toNat - 'A'.toNat + 10)
  else none

/-- `hex.DecodeString`: a byte for every two digits, `none` for an odd length or
a character that is not a digit. -/
def hexDecode : List Char → Option (List UInt8)
  | [] => some []
  | [_] => none
  | high :: low :: rest => do
      let high ← hexDigit high
      let low ← hexDigit low
      let rest ← hexDecode rest
      pure ((high * 16 + low).toUInt8 :: rest)

/-- Modelled from the spec: a channel of a virtual server's tree (§3): its id,
name, the id of its parent (the source keeps a pointer to the parent), the key
of its description blob (empty without a description), the temporary flag, the
position hint, the keys of its `Links` map in the order the map yields them,
and its children in order. -/
structure Channel where
  id : Nat
  name : String
  parent : Option Nat
  descriptionBlob : String
  temporary : Bool
  position : Int
  links : List Nat
  children : List Channel
deriving Repr

namespace Channel

/-- Modelled from the spec: `HasDescription`, a description blob is set. -/
def hasDescription (channel : Channel) : Bool := channel.descriptionBlob != ""

/-- Modelled from the spec: `DescriptionBlobHashBytes`, the digest that the
blob's key spells in hexadecimal (§5, blobs are "keyed by hex-encoded digest"),
nil when the key does not decode. -/
def descriptionBlobHashBytes (channel : Channel) : Option (List UInt8) :=
  hexDecode channel.descriptionBlob.toList

mutual
/-- The channels of the subtree at `channel`, in depth-first pre-order. -/
def channels : Channel → List Channel
  | channel@⟨_, _, _, _, _, _, _, children⟩ => channel :: forestChannels children
/-- The channels of the subtrees at each of a list of channels, one subtree
after the other. -/
def forestChannels : List Channel → List Channel
  | [] => []
  | channel :: rest => channel.channels ++ forestChannels rest
end

theorem channels_eq (channel : Channel) : channel.channels = channel :: forestChannels channel.children := by
  cases channel; rfl

theorem mem_of_forestChannels_eq_cons {subtrees after : List Channel} {channel : Channel}
    (split : forestChannels subtrees = channel :: after) : channel ∈ subtrees := by
  cases subtrees with
  | nil => cases split
  | cons first rest =>
      rw [forestChannels, channels_eq, List.cons_append] at split
      rw [(List.cons.inj split).1]
      exact List.mem_cons_self _ _

mutual
theorem precedes : ∀ (channel : Channel) {before after : List Channel} {x : Channel},
    channel.channels = before ++ x :: after → (before = [] ∧ x = channel) ∨ ∃ parent ∈ before, x ∈ parent.children
  | channel@⟨_, _, _, _, _, _, _, children⟩, before, after, x, split => by
      rw [channels] at split
      cases before with
      | nil => exact .inl ⟨rfl, (List.cons.inj split).1.symm⟩
      | cons first before =>
          obtain ⟨rfl, rest⟩ := List.cons.inj split
          rcases forest_precedes children rest with child | ⟨parent, mem, inside⟩
          · exact .inr ⟨_, List.mem_cons_self _ _, child⟩
          · exact .inr ⟨parent, List.mem_cons_of_mem _ mem, inside⟩
theorem forest_precedes : ∀ (subtrees : List Channel) {before after : List Channel} {x : Channel},
    forestChannels subtrees = before ++ x :: after → x ∈ subtrees ∨ ∃ parent ∈ before, x ∈ parent.children
  | [], before, _, _, split => by cases before <;> cases split
  | channel :: rest, _, _, _, split => by
      rw [forestChannels] at split
      rcases List.append_eq_append_iff.mp split with ⟨middle, rfl, inRest⟩ | ⟨middle, inFirst, tail⟩
      · rcases forest_precedes rest inRest with mem | ⟨parent, mem, inside⟩
        · exact .inl (List.mem_cons_of_mem _ mem)
        · exact .inr ⟨parent, List.mem_append_right _ mem, inside⟩
      · cases middle with
        | nil => exact .inl (List.mem_cons_of_mem _ (mem_of_forestChannels_eq_cons tail.symm))
        | cons y middle =>
            obtain ⟨rfl, -⟩ := List.cons.inj tail
            rcases precedes channel inFirst with ⟨-, rfl⟩ | found
            · exact .inl (List.mem_cons_self _ _)
            · exact .inr found
end

end Channel

/-- Modelled from the spec: the channel tree of a virtual server, rooted at
`RootChannel()`, whose parent pointers agree with the children lists. -/
structure ChannelTree where
  root : Channel
  root_parent : root.parent = none
  parent_linked : ∀ channel ∈ root.channels, ∀ child ∈ channel.children, child.parent = some channel.id

/-- In the pre-order of a channel tree, the root comes first and has no parent,
and every other channel comes after its parent. -/
theorem ChannelTree.parent_precedes (tree : ChannelTree) {before after : List Channel} {channel : Channel}
    (split : tree.root.channels = before ++ channel :: after) :
    (before = [] ∧ channel.parent = none) ∨
      ∃ parent ∈ before, channel ∈ parent.children ∧ channel.parent = some parent.id := by
  rcases Channel.precedes tree.root split with ⟨rfl, rfl⟩ | ⟨parent, mem, inside⟩
  · exact .inl ⟨rfl, tree.root_parent⟩
  · exact .inr ⟨parent, mem, inside,
      tree.parent_linked parent (by rw [split]; exact List.mem_append_left _ mem) channel inside⟩

/-- The `ChannelState` message, with the fields `sendChannelTree` sets; `none`
is a field left unset. -/
structure ChannelState where
  channelId : UInt32
  name : String
  parent : Option UInt32 := none
  description : Option (List UInt8) := none
  descriptionHash : Option (List UInt8) := none
  temporary : Option Bool := none
  position : Int := 0
  links : List UInt32 := []
deriving DecidableEq, Repr

section

variable (supportDescBlobHash : Bool) (blobStore : String → Option (List UInt8))

/-- The message `sendChannelTree` builds for `channel` (lines 534-565), or the
panic `"Blobstore error."` when the description it has to send cannot be read.
`supportDescBlobHash` is `client.Version.SupportDescBlobHash()`, and
`blobStore` is `blobStore.Get`, `none` for an error. -/
def channelState (channel : Channel) : Except String ChannelState := do
  let chanstate : ChannelState :=
    { channelId := channel.id.toUInt32, name := channel.name, parent := channel.parent.map Nat.toUInt32 }
  let chanstate ←
    if channel.hasDescription then
      if supportDescBlobHash then pure { chanstate with descriptionHash := channel.descriptionBlobHashBytes }
      else
        match blobStore channel.descriptionBlob with
        | none => throw "Blobstore error."
        | some buf => pure { chanstate with description := some buf }
    else pure chanstate
  let chanstate := if channel.temporary then { chanstate with temporary := some true } else chanstate
  pure { chanstate with position := channel.position.bmod (2 ^ 32), links := channel.links.map Nat.toUInt32 }

mutual
/-- `sendChannelTree`: the messages passed to `sendMessage`, the channel's own
first, then those of each child's subtree. Every send is taken to succeed; a
failed one only logs and disconnects, and the loop goes on. -/
def sendChannelTree : Channel → Except String (List ChannelState)
  | channel@⟨_, _, _, _, _, _, _, children⟩ => do
      let chanstate ← channelState supportDescBlobHash blobStore channel
      let sent ← sendChannelTrees children
      pure (chanstate :: sent)
/-- The loop `for _, subchannel := range channel.children`. -/
def sendChannelTrees : List Channel → Except String (List ChannelState)
  | [] => pure []
  | channel :: rest => do
      let first ← sendChannelTree channel
      let others ← sendChannelTrees rest
      pure (first ++ others)
end

def sendChannelList (tree : ChannelTree) : Except String (List ChannelState) :=
  sendChannelTree supportDescBlobHash blobStore tree.root

/-- What the message for `channel` carries: the channel's id, name, its
parent's id, the keys of its links, and its description in the form the client
takes it, the text or the hash. -/
def Carries (channel : Channel) (chanstate : ChannelState) : Prop :=
  chanstate.channelId = channel.id.toUInt32 ∧ chanstate.name = channel.name ∧
    chanstate.parent = channel.parent.map Nat.toUInt32 ∧ chanstate.links = channel.links.map Nat.toUInt32 ∧
    chanstate.description =
      (if channel.hasDescription ∧ supportDescBlobHash = false then blobStore channel.descriptionBlob else none) ∧
    chanstate.descriptionHash =
      (if channel.hasDescription ∧ supportDescBlobHash = true then channel.descriptionBlobHashBytes else none)

end

-- `mapM` over `Except`.

theorem mapM_eq_error {α β ε : Type} {f : α → Except ε β} :
    ∀ {l : List α} {e : ε}, l.mapM f = .error e → ∃ a ∈ l, f a = .error e
  | [], _, failed => by cases failed
  | a :: l, _, failed => by
      rw [List.mapM_cons] at failed
      cases first : f a with
      | error _ => rw [first] at failed; cases failed; exact ⟨a, List.mem_cons_self _ _, first⟩
      | ok _ =>
          cases rest : l.mapM f with
          | error _ =>
              rw [first, rest] at failed
              cases failed
              obtain ⟨a', mem, found⟩ := mapM_eq_error rest
              exact ⟨a', List.mem_cons_of_mem _ mem, found⟩
          | ok _ => rw [first, rest] at failed; cases failed

theorem mapM_error_of_mem {α β ε : Type} {f : α → Except ε β} {a : α} {e : ε} (failed : f a = .error e) :
    ∀ {l : List α}, a ∈ l → ∃ e', l.mapM f = .error e'
  | b :: l, mem => by
      rw [List.mapM_cons]
      cases first : f b with
      | error e' => exact ⟨e', rfl⟩
      | ok _ =>
          rcases List.mem_cons.mp mem with rfl | mem
          · rw [failed] at first; cases first
          · obtain ⟨e', rest⟩ := mapM_error_of_mem failed mem
            exact ⟨e', by rw [rest]; rfl⟩

theorem mapM_ok_of_forall {α β ε : Type} {f : α → Except ε β} {R : α → β → Prop} :
    ∀ {l : List α}, (∀ a ∈ l, ∃ b, f a = .ok b ∧ R a b) → ∃ bs, l.mapM f = .ok bs ∧ List.Forall₂ R l bs
  | [], _ => ⟨[], rfl, .nil⟩
  | a :: l, each => by
      obtain ⟨b, first, related⟩ := each a (List.mem_cons_self _ _)
      obtain ⟨bs, rest, others⟩ := mapM_ok_of_forall fun a' mem => each a' (List.mem_cons_of_mem _ mem)
      exact ⟨b :: bs, by rw [List.mapM_cons, first, rest]; rfl, .cons related others⟩

-- One message per channel.

section

variable (supportDescBlobHash : Bool) (blobStore : String → Option (List UInt8))

mutual
theorem sendChannelTree_eq_mapM : ∀ channel : Channel,
    sendChannelTree supportDescBlobHash blobStore channel =
      channel.channels.mapM (channelState supportDescBlobHash blobStore)
  | ⟨_, _, _, _, _, _, _, children⟩ => by
      rw [sendChannelTree, Channel.channels, List.mapM_cons, sendChannelTrees_eq_mapM children]
theorem sendChannelTrees_eq_mapM : ∀ subtrees : List Channel,
    sendChannelTrees supportDescBlobHash blobStore subtrees =
      (Channel.forestChannels subtrees).mapM (channelState supportDescBlobHash blobStore)
  | [] => rfl
  | channel :: rest => by
      rw [sendChannelTrees, Channel.forestChannels, List.mapM_append, sendChannelTree_eq_mapM channel,
        sendChannelTrees_eq_mapM rest]
end

theorem channelState_eq_error {channel : Channel} {panic : String}
    (failed : channelState supportDescBlobHash blobStore channel = .error panic) :
    panic = "Blobstore error." ∧ channel.hasDescription = true ∧ supportDescBlobHash = false ∧
      blobStore channel.descriptionBlob = none := by
  unfold channelState at failed
  by_cases described : channel.hasDescription = true
  · cases support : supportDescBlobHash
    · cases found : blobStore channel.descriptionBlob with
      | none => simp only [described, support, found, if_true] at failed; cases failed; exact ⟨rfl, described, rfl, rfl⟩
      | some buf => simp only [described, support, found, if_true] at failed; cases failed
    · simp only [described, support, if_true] at failed; cases failed
  · simp only [described, if_false] at failed; cases failed

theorem channelState_blob_missing {channel : Channel} (described : channel.hasDescription = true)
    (missing : blobStore channel.descriptionBlob = none) :
    channelState false blobStore channel = .error "Blobstore error." := by
  simp [channelState, described, missing]; rfl

theorem channelState_carries (channel : Channel)
    (fetched : channel.hasDescription = true → supportDescBlobHash = false →
      (blobStore channel.descriptionBlob).isSome = true) :
    ∃ chanstate, channelState supportDescBlobHash blobStore channel = .ok chanstate ∧
      Carries supportDescBlobHash blobStore channel chanstate := by
  unfold channelState Carries
  by_cases described : channel.hasDescription = true
  · cases support : supportDescBlobHash
    · obtain ⟨buf, found⟩ := Option.isSome_iff_exists.mp (fetched described support)
      cases channel.temporary <;> simp [described, found, pure, Except.pure, bind, Except.bind]
    · cases channel.temporary <;> simp [described, pure, Except.pure, bind, Except.bind]
  · cases channel.temporary <;> simp [described, pure, Except.pure, bind, Except.bind]

theorem sendChannelList_blob_failure_panics (tree : ChannelTree) {channel : Channel}
    (member : channel ∈ tree.root.channels) (described : channel.hasDescription = true)
    (missing : blobStore channel.descriptionBlob = none) :
    sendChannelList false blobStore tree = .error "Blobstore error." := by
  rw [sendChannelList, sendChannelTree_eq_mapM]
  obtain ⟨panic, failed⟩ := mapM_error_of_mem (channelState_blob_missing blobStore described missing) member
  obtain ⟨_, _, raised⟩ := mapM_eq_error failed
  rw [failed, (channelState_eq_error false blobStore raised).1]

theorem sendChannelList_carries (tree : ChannelTree)
    (fetched : ∀ channel ∈ tree.root.channels, channel.hasDescription = true → supportDescBlobHash = false →
      (blobStore channel.descriptionBlob).isSome = true) :
    ∃ messages, sendChannelList supportDescBlobHash blobStore tree = .ok messages ∧
      List.Forall₂ (Carries supportDescBlobHash blobStore) tree.root.channels messages := by
  obtain ⟨messages, sent, carried⟩ := mapM_ok_of_forall fun channel member =>
    channelState_carries supportDescBlobHash blobStore channel (fetched channel member)
  exact ⟨messages, by rw [sendChannelList, sendChannelTree_eq_mapM, sent], carried⟩

/-- When every description the client is to be sent can be read,
`sendChannelList` sends one `ChannelState` per channel of the tree and nothing
else, in depth-first pre-order, each carrying its channel's id, parent, links
and description; the root's has no parent, and every other channel's message
comes after its parent's and names it. -/
theorem sendChannelList_sends_tree_in_preorder (tree : ChannelTree)
    (fetched : ∀ channel ∈ tree.root.channels, channel.hasDescription = true → supportDescBlobHash = false →
      (blobStore channel.descriptionBlob).isSome = true) :
    ∃ messages, sendChannelList supportDescBlobHash blobStore tree = .ok messages ∧
      List.Forall₂ (Carries supportDescBlobHash blobStore) tree.root.channels messages ∧
      ∀ before channel after, tree.root.channels = before ++ channel :: after →
        (before = [] ∧ channel.parent = none) ∨
          ∃ parent ∈ before, channel ∈ parent.children ∧ channel.parent = some parent.id := by
  obtain ⟨messages, sent, carried⟩ := sendChannelList_carries supportDescBlobHash blobStore tree fetched
  exact ⟨messages, sent, carried, fun _ _ _ split => tree.parent_precedes split⟩

/-- What `sendChannelList` does for every tree, client and blob store: it panics
with `"Blobstore error."` when the client takes descriptions as text and the
description blob of some channel cannot be read; otherwise it sends one
`ChannelState` per channel, in pre-order, each carrying its channel's fields,
the root's first and every other after its parent's. -/
theorem sendChannelList_panics_or_sends_tree (tree : ChannelTree) :
    (supportDescBlobHash = false ∧
        (∃ channel ∈ tree.root.channels, channel.hasDescription = true ∧ blobStore channel.descriptionBlob = none) ∧
        sendChannelList supportDescBlobHash blobStore tree = .error "Blobstore error.") ∨
      ((∀ channel ∈ tree.root.channels, channel.hasDescription = true → supportDescBlobHash = false →
          (blobStore channel.descriptionBlob).isSome = true) ∧
        ∃ messages, sendChannelList supportDescBlobHash blobStore tree = .ok messages ∧
          List.Forall₂ (Carries supportDescBlobHash blobStore) tree.root.channels messages ∧
          ∀ before channel after, tree.root.channels = before ++ channel :: after →
            (before = [] ∧ channel.parent = none) ∨
              ∃ parent ∈ before, channel ∈ parent.children ∧ channel.parent = some parent.id) := by
  by_cases fetched : ∀ channel ∈ tree.root.channels, channel.hasDescription = true →
      supportDescBlobHash = false → (blobStore channel.descriptionBlob).isSome = true
  · obtain ⟨messages, sent, carried⟩ := sendChannelList_carries supportDescBlobHash blobStore tree fetched
    exact .inr ⟨fetched, messages, sent, carried, fun _ _ _ split => tree.parent_precedes split⟩
  · push_neg at fetched
    obtain ⟨channel, member, described, text, unread⟩ := fetched
    have missing : blobStore channel.descriptionBlob = none := by simpa using unread
    subst text
    exact .inl ⟨rfl, ⟨channel, member, described, missing⟩,
      sendChannelList_blob_failure_panics blobStore tree member described missing⟩

end

/-- A root with a description, whose blob has the key `"ab"`. -/
def describedRoot : ChannelTree where
  root := { id := 0, name := "Root", parent := none, descriptionBlob := "ab", temporary := false, position := 0,
            links := [], children := [] }
  root_parent := rfl
  parent_linked := by
    intro channel member child inside
    simp [Channel.channels_eq, Channel.forestChannels] at member
    subst member
    cases inside

/-- A blob store that cannot read the root's description blob: the channel
list panics instead of sending an empty description. -/
theorem sendChannelList_unreadable_root_description :
    describedRoot.root ∈ describedRoot.root.channels ∧ describedRoot.root.hasDescription = true ∧
      (fun _ => none : String → Option (List UInt8)) describedRoot.root.descriptionBlob = none ∧
      sendChannelList false (fun _ => none) describedRoot = .error "Blobstore error." :=
  have member : describedRoot.root ∈ describedRoot.root.channels := by
    rw [Channel.channels_eq]; exact List.mem_cons_self _ _
  ⟨member, rfl, rfl, sendChannelList_blob_failure_panics (fun _ => none) describedRoot member rfl rfl⟩

/-- A root with one child, neither described. -/
def rootWithChild : ChannelTree where
  root := { id := 0, name := "Root", parent := none, descriptionBlob := "", temporary := false, position := 0,
            links := [1], children := [{ id := 1, name := "Lobby", parent := some 0, descriptionBlob := "",
                                         temporary := true, position := 1, links := [0], children := [] }] }
  root_parent := rfl
  parent_linked := by
    intro channel member child inside
    simp [Channel.channels_eq, Channel.forestChannels] at member
    rcases member with rfl | rfl <;> simp at inside
    rw [inside]

/-- Without descriptions no blob is read, even from a store that reads none:
the root's message, then the child's, naming the root as its parent. -/
theorem sendChannelList_root_then_child :
    (∀ channel ∈ rootWithChild.root.channels, channel.hasDescription = true → false = false →
        ((fun _ => none : String → Option (List UInt8)) channel.descriptionBlob).isSome = true) ∧
      ∃ messages, sendChannelList false (fun _ => none) rootWithChild = .ok messages ∧
        List.Forall₂ (Carries false (fun _ => none)) rootWithChild.root.channels messages ∧
        ∀ before channel after, rootWithChild.root.channels = before ++ channel :: after →
          (before = [] ∧ channel.parent = none) ∨
            ∃ parent ∈ before, channel ∈ parent.children ∧ channel.parent = some parent.id :=
  have fetched : ∀ channel ∈ rootWithChild.root.channels, channel.hasDescription = true → false = false →
      ((fun _ => none : String → Option (List UInt8)) channel.descriptionBlob).isSome = true := by
    intro channel member described
    simp [Channel.channels_eq, Channel.forestChannels] at member
    rcases member with rfl | rfl <;> simp [Channel.hasDescription, rootWithChild] at described
  ⟨fetched, sendChannelList_sends_tree_in_preorder false (fun _ => none) rootWithChild fetched⟩

end Grumble.Client
