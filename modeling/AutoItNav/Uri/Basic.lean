import AutoItNav.Text.Basic

/-!
URIs in normal form. Every part is kept as it is printed, so two URIs are equal when their texts
are.
-/
namespace AutoItNav

structure Authority where
  /-- User and password with the sign behind them, or nothing. -/
  credentials : Text
  host : Text
  port : Option Nat
deriving DecidableEq, Repr

structure Uri where
  scheme : Text
  authority : Option Authority
  path : Text
  query : Option Text
  fragment : Option Text
deriving DecidableEq, Repr

namespace Uri

def decimal (n : Nat) : Text := Nat.toDigits 10 n

def authorityText (a : Authority) : Text :=
  ['/', '/'] ++ a.credentials ++ a.host ++ (a.port.elim [] fun port => ':' :: decimal port)

/-- Keeps a path that begins with two slashes from being read as an authority. -/
def pathGuard (u : Uri) : Text :=
  match u.authority, u.path with
  | none, '/' :: '/' :: _ => ['/', '.']
  | _, _ => []

def toText (u : Uri) : Text :=
  u.scheme ++ ':' :: (u.authority.elim [] authorityText ++ u.pathGuard ++ u.path
    ++ u.query.elim [] ('?' :: ·) ++ u.fragment.elim [] ('#' :: ·))

def toString (u : Uri) : String := String.ofList u.toText

end Uri

end AutoItNav
