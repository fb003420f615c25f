import BeanBridge.Store.Der

/-! Certificates, as far as they are looked at before they are used: their form, the extensions that
they insist on, and the public key that they certify. -/

namespace BeanBridge

open Der

/-- What is kept of a certificate. -/
structure Certificate where
  /-- The kind of the public key and the key. -/
  keyInfo : List UInt8

namespace Certificate

/-- More bytes than a certificate may hold. -/
def limit : Nat := 2 ^ 16 - 1

/-- What is certified, and the kind of the signature beneath it. -/
structure Signed where
  body : List UInt8
  kind : List UInt8

def signed : Reader Signed := sequence do
  let body ← content sequenceTag
  let kind ← content sequenceTag
  discard (bits bitsTag)
  pure ⟨body, kind⟩

/-- A statement that goes beyond the parts of all certificates. -/
structure Extension where
  name : List UInt8
  isCritical : Bool
  value : List UInt8

def extension : Reader Extension := sequence do
  pure ⟨← content nameTag, ← flag, ← content bytesTag⟩

/-- The names of extensions that are known end so, behind `55 1d`. -/
def known : List UInt8 := [15, 17, 19, 30, 31, 37]

/-- The extension that tells what a key is for, whose value may have any form. -/
def keyUsage : UInt8 := 15

/-- The value of an extension is one sequence. -/
def isSequence (value : List UInt8) : Bool := ((content sequenceTag).whole? value).isSome

/-- How much the extensions of a certificate matter. -/
inductive Use where
  /-- The certificate is trusted as it is, and what it insists on does not matter. -/
  | trusted
  /-- The certificate is shown to others. -/
  | shown
  deriving DecidableEq

/-- The extensions that are known are there once and have their form, and no other insists on
itself, if that matters; `seen` are those that came before. -/
def extensionsFit (use : Use) (seen : List UInt8) : List Extension → Bool
  | [] => true
  | ⟨name, isCritical, value⟩ :: later =>
    let isPassed := use == .trusted || !isCritical
    match name with
    | [0x55, 0x1d, last] =>
      if known.elem last then
        !seen.elem last && (last == keyUsage || isSequence value) &&
          extensionsFit use (last :: seen) later
      else isPassed && extensionsFit use seen later
    | _ => isPassed && extensionsFit use seen later

/-- What is certified in the third form of certificates, under a signature of the kind given. -/
def body (use : Use) (kind : List UInt8) : Reader Certificate := do
  guard ((← within (numbered 0) small) = 2)
  discard (content wholeTag)
  guard ((← content sequenceTag) = kind)
  let [_, _, _, keyInfo] ← (List.replicate 4 sequenceTag).mapM content | failure
  if !(← ends) then
    guard (extensionsFit use [] (← within (numbered 3) (sequence (several extension))))
  pure ⟨keyInfo⟩

/-- What is certified in the first form of certificates. -/
def oldBody : Reader Certificate := do
  discard (content wholeTag)
  let [_, _, _, _, keyInfo] ← (List.replicate 5 sequenceTag).mapM content | failure
  pure ⟨keyInfo⟩

def ofBytes? (use : Use) (bytes : List UInt8) : Option Certificate := do
  let signed ← signed.whole? bytes
  if limit ≤ signed.body.length then none
  (body use signed.kind).whole? signed.body

/-- The certificate that bytes are, when it is to be trusted; then it may have the first form. -/
def ofTrusted? (bytes : List UInt8) : Option Certificate :=
  match ofBytes? .trusted bytes with
  | some certificate => some certificate
  | none => do oldBody.whole? (← signed.whole? bytes).body

end Certificate

end BeanBridge
