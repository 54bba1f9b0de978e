/-!
# Encodings of one byte a character

Each table lists blocks of consecutive codes with the character of the first of
them; codes in no block stand for nothing.
-/

namespace Prospectus.Pdf.Encoding

/-- Codes from `first` to `last`, which stand for consecutive characters from
`image` on. -/
structure Block where
  first : Nat
  last : Nat
  image : Nat

/-- An encoding of one byte a character. -/
abbrev Table := List Block

/-- The character of a code. -/
def Table.char? (t : Table) (code : Nat) : Option Char :=
  (t.find? fun b => b.first ≤ code && code ≤ b.last).map fun b =>
    Char.ofNat (b.image + (code - b.first))

/-- The standard encoding of Latin text. -/
def standard : Table := [
  ⟨0x20, 0x26, 0x20⟩, ⟨0x27, 0x27, 0x2019⟩, ⟨0x28, 0x5F, 0x28⟩,
  ⟨0x60, 0x60, 0x2018⟩, ⟨0x61, 0x7E, 0x61⟩, ⟨0xA1, 0xA3, 0xA1⟩,
  ⟨0xA4, 0xA4, 0x2044⟩, ⟨0xA5, 0xA5, 0xA5⟩, ⟨0xA6, 0xA6, 0x192⟩,
  ⟨0xA7, 0xA7, 0xA7⟩, ⟨0xA8, 0xA8, 0xA4⟩, ⟨0xA9, 0xA9, 0x27⟩,
  ⟨0xAA, 0xAA, 0x201C⟩, ⟨0xAB, 0xAB, 0xAB⟩, ⟨0xAC, 0xAD, 0x2039⟩,
  ⟨0xAE, 0xAF, 0xFB01⟩, ⟨0xB1, 0xB1, 0x2013⟩, ⟨0xB2, 0xB3, 0x2020⟩,
  ⟨0xB4, 0xB4, 0xB7⟩, ⟨0xB6, 0xB6, 0xB6⟩, ⟨0xB7, 0xB7, 0x2022⟩,
  ⟨0xB8, 0xB8, 0x201A⟩, ⟨0xB9, 0xB9, 0x201E⟩, ⟨0xBA, 0xBA, 0x201D⟩,
  ⟨0xBB, 0xBB, 0xBB⟩, ⟨0xBC, 0xBC, 0x2026⟩, ⟨0xBD, 0xBD, 0x2030⟩,
  ⟨0xBF, 0xBF, 0xBF⟩, ⟨0xC1, 0xC1, 0x60⟩, ⟨0xC2, 0xC2, 0xB4⟩,
  ⟨0xC3, 0xC3, 0x2C6⟩, ⟨0xC4, 0xC4, 0x2DC⟩, ⟨0xC5, 0xC5, 0xAF⟩,
  ⟨0xC6, 0xC7, 0x2D8⟩, ⟨0xC8, 0xC8, 0xA8⟩, ⟨0xCA, 0xCA, 0x2DA⟩,
  ⟨0xCB, 0xCB, 0xB8⟩, ⟨0xCD, 0xCD, 0x2DD⟩, ⟨0xCE, 0xCE, 0x2DB⟩,
  ⟨0xCF, 0xCF, 0x2C7⟩, ⟨0xD0, 0xD0, 0x2014⟩, ⟨0xE1, 0xE1, 0xC6⟩,
  ⟨0xE3, 0xE3, 0xAA⟩, ⟨0xE8, 0xE8, 0x141⟩, ⟨0xE9, 0xE9, 0xD8⟩,
  ⟨0xEA, 0xEA, 0x152⟩, ⟨0xEB, 0xEB, 0xBA⟩, ⟨0xF1, 0xF1, 0xE6⟩,
  ⟨0xF5, 0xF5, 0x131⟩, ⟨0xF8, 0xF8, 0x142⟩, ⟨0xF9, 0xF9, 0xF8⟩,
  ⟨0xFA, 0xFA, 0x153⟩, ⟨0xFB, 0xFB, 0xDF⟩]

/-- The encoding of the Macintosh for Latin text. -/
def macRoman : Table := [
  ⟨0x20, 0x7E, 0x20⟩, ⟨0x80, 0x81, 0xC4⟩, ⟨0x82, 0x82, 0xC7⟩,
  ⟨0x83, 0x83, 0xC9⟩, ⟨0x84, 0x84, 0xD1⟩, ⟨0x85, 0x85, 0xD6⟩,
  ⟨0x86, 0x86, 0xDC⟩, ⟨0x87, 0x87, 0xE1⟩, ⟨0x88, 0x88, 0xE0⟩,
  ⟨0x89, 0x89, 0xE2⟩, ⟨0x8A, 0x8A, 0xE4⟩, ⟨0x8B, 0x8B, 0xE3⟩,
  ⟨0x8C, 0x8C, 0xE5⟩, ⟨0x8D, 0x8D, 0xE7⟩, ⟨0x8E, 0x8E, 0xE9⟩,
  ⟨0x8F, 0x8F, 0xE8⟩, ⟨0x90, 0x91, 0xEA⟩, ⟨0x92, 0x92, 0xED⟩,
  ⟨0x93, 0x93, 0xEC⟩, ⟨0x94, 0x95, 0xEE⟩, ⟨0x96, 0x96, 0xF1⟩,
  ⟨0x97, 0x97, 0xF3⟩, ⟨0x98, 0x98, 0xF2⟩, ⟨0x99, 0x99, 0xF4⟩,
  ⟨0x9A, 0x9A, 0xF6⟩, ⟨0x9B, 0x9B, 0xF5⟩, ⟨0x9C, 0x9C, 0xFA⟩,
  ⟨0x9D, 0x9D, 0xF9⟩, ⟨0x9E, 0x9F, 0xFB⟩, ⟨0xA0, 0xA0, 0x2020⟩,
  ⟨0xA1, 0xA1, 0xB0⟩, ⟨0xA2, 0xA3, 0xA2⟩, ⟨0xA4, 0xA4, 0xA7⟩,
  ⟨0xA5, 0xA5, 0x2022⟩, ⟨0xA6, 0xA6, 0xB6⟩, ⟨0xA7, 0xA7, 0xDF⟩,
  ⟨0xA8, 0xA8, 0xAE⟩, ⟨0xA9, 0xA9, 0xA9⟩, ⟨0xAA, 0xAA, 0x2122⟩,
  ⟨0xAB, 0xAB, 0xB4⟩, ⟨0xAC, 0xAC, 0xA8⟩, ⟨0xAD, 0xAD, 0x2260⟩,
  ⟨0xAE, 0xAE, 0xC6⟩, ⟨0xAF, 0xAF, 0xD8⟩, ⟨0xB0, 0xB0, 0x221E⟩,
  ⟨0xB1, 0xB1, 0xB1⟩, ⟨0xB2, 0xB3, 0x2264⟩, ⟨0xB4, 0xB4, 0xA5⟩,
  ⟨0xB5, 0xB5, 0xB5⟩, ⟨0xB6, 0xB6, 0x2202⟩, ⟨0xB7, 0xB7, 0x2211⟩,
  ⟨0xB8, 0xB8, 0x220F⟩, ⟨0xB9, 0xB9, 0x3C0⟩, ⟨0xBA, 0xBA, 0x222B⟩,
  ⟨0xBB, 0xBB, 0xAA⟩, ⟨0xBC, 0xBC, 0xBA⟩, ⟨0xBD, 0xBD, 0x3A9⟩,
  ⟨0xBE, 0xBE, 0xE6⟩, ⟨0xBF, 0xBF, 0xF8⟩, ⟨0xC0, 0xC0, 0xBF⟩,
  ⟨0xC1, 0xC1, 0xA1⟩, ⟨0xC2, 0xC2, 0xAC⟩, ⟨0xC3, 0xC3, 0x221A⟩,
  ⟨0xC4, 0xC4, 0x192⟩, ⟨0xC5, 0xC5, 0x2248⟩, ⟨0xC6, 0xC6, 0x2206⟩,
  ⟨0xC7, 0xC7, 0xAB⟩, ⟨0xC8, 0xC8, 0xBB⟩, ⟨0xC9, 0xC9, 0x2026⟩,
  ⟨0xCA, 0xCA, 0x20⟩, ⟨0xCB, 0xCB, 0xC0⟩, ⟨0xCC, 0xCC, 0xC3⟩,
  ⟨0xCD, 0xCD, 0xD5⟩, ⟨0xCE, 0xCF, 0x152⟩, ⟨0xD0, 0xD1, 0x2013⟩,
  ⟨0xD2, 0xD3, 0x201C⟩, ⟨0xD4, 0xD5, 0x2018⟩, ⟨0xD6, 0xD6, 0xF7⟩,
  ⟨0xD7, 0xD7, 0x25CA⟩, ⟨0xD8, 0xD8, 0xFF⟩, ⟨0xD9, 0xD9, 0x178⟩,
  ⟨0xDA, 0xDA, 0x2044⟩, ⟨0xDB, 0xDB, 0xA4⟩, ⟨0xDC, 0xDD, 0x2039⟩,
  ⟨0xDE, 0xDF, 0xFB01⟩, ⟨0xE0, 0xE0, 0x2021⟩, ⟨0xE1, 0xE1, 0xB7⟩,
  ⟨0xE2, 0xE2, 0x201A⟩, ⟨0xE3, 0xE3, 0x201E⟩, ⟨0xE4, 0xE4, 0x2030⟩,
  ⟨0xE5, 0xE5, 0xC2⟩, ⟨0xE6, 0xE6, 0xCA⟩, ⟨0xE7, 0xE7, 0xC1⟩,
  ⟨0xE8, 0xE8, 0xCB⟩, ⟨0xE9, 0xE9, 0xC8⟩, ⟨0xEA, 0xEC, 0xCD⟩,
  ⟨0xED, 0xED, 0xCC⟩, ⟨0xEE, 0xEF, 0xD3⟩, ⟨0xF1, 0xF1, 0xD2⟩,
  ⟨0xF2, 0xF3, 0xDA⟩, ⟨0xF4, 0xF4, 0xD9⟩, ⟨0xF5, 0xF5, 0x131⟩,
  ⟨0xF6, 0xF6, 0x2C6⟩, ⟨0xF7, 0xF7, 0x2DC⟩, ⟨0xF8, 0xF8, 0xAF⟩,
  ⟨0xF9, 0xFB, 0x2D8⟩, ⟨0xFC, 0xFC, 0xB8⟩, ⟨0xFD, 0xFD, 0x2DD⟩,
  ⟨0xFE, 0xFE, 0x2DB⟩, ⟨0xFF, 0xFF, 0x2C7⟩]

/-- The encoding of the Macintosh for expert fonts: small capitals, old figures
and fractions. -/
def macExpert : Table := [
  ⟨0x20, 0x20, 0x20⟩, ⟨0x21, 0x21, 0xF721⟩, ⟨0x22, 0x22, 0xF6F8⟩,
  ⟨0x23, 0x23, 0xF7A2⟩, ⟨0x24, 0x24, 0xF724⟩, ⟨0x25, 0x25, 0xF6E4⟩,
  ⟨0x26, 0x26, 0xF726⟩, ⟨0x27, 0x27, 0xF7B4⟩, ⟨0x28, 0x29, 0x207D⟩,
  ⟨0x2A, 0x2A, 0x2025⟩, ⟨0x2B, 0x2B, 0x2024⟩, ⟨0x2C, 0x2E, 0x2C⟩,
  ⟨0x2F, 0x2F, 0x2044⟩, ⟨0x30, 0x39, 0xF730⟩, ⟨0x3A, 0x3B, 0x3A⟩,
  ⟨0x3D, 0x3D, 0xF6DE⟩, ⟨0x3F, 0x3F, 0xF73F⟩, ⟨0x44, 0x44, 0xF7F0⟩,
  ⟨0x47, 0x49, 0xBC⟩, ⟨0x4A, 0x4D, 0x215B⟩, ⟨0x4E, 0x4F, 0x2153⟩,
  ⟨0x56, 0x5A, 0xFB00⟩, ⟨0x5B, 0x5B, 0x208D⟩, ⟨0x5D, 0x5D, 0x208E⟩,
  ⟨0x5E, 0x5E, 0xF6F6⟩, ⟨0x5F, 0x5F, 0xF6E5⟩, ⟨0x60, 0x7A, 0xF760⟩,
  ⟨0x7B, 0x7B, 0x20A1⟩, ⟨0x7C, 0x7D, 0xF6DC⟩, ⟨0x7E, 0x7E, 0xF6FE⟩,
  ⟨0x81, 0x81, 0xF6E9⟩, ⟨0x82, 0x82, 0xF6E0⟩, ⟨0x87, 0x87, 0xF7E1⟩,
  ⟨0x88, 0x88, 0xF7E0⟩, ⟨0x89, 0x89, 0xF7E2⟩, ⟨0x8A, 0x8A, 0xF7E4⟩,
  ⟨0x8B, 0x8B, 0xF7E3⟩, ⟨0x8C, 0x8C, 0xF7E5⟩, ⟨0x8D, 0x8D, 0xF7E7⟩,
  ⟨0x8E, 0x8E, 0xF7E9⟩, ⟨0x8F, 0x8F, 0xF7E8⟩, ⟨0x90, 0x91, 0xF7EA⟩,
  ⟨0x92, 0x92, 0xF7ED⟩, ⟨0x93, 0x93, 0xF7EC⟩, ⟨0x94, 0x95, 0xF7EE⟩,
  ⟨0x96, 0x96, 0xF7F1⟩, ⟨0x97, 0x97, 0xF7F3⟩, ⟨0x98, 0x98, 0xF7F2⟩,
  ⟨0x99, 0x99, 0xF7F4⟩, ⟨0x9A, 0x9A, 0xF7F6⟩, ⟨0x9B, 0x9B, 0xF7F5⟩,
  ⟨0x9C, 0x9C, 0xF7FA⟩, ⟨0x9D, 0x9D, 0xF7F9⟩, ⟨0x9E, 0x9F, 0xF7FB⟩,
  ⟨0xA1, 0xA1, 0x2078⟩, ⟨0xA2, 0xA2, 0x2084⟩, ⟨0xA3, 0xA3, 0x2083⟩,
  ⟨0xA4, 0xA4, 0x2086⟩, ⟨0xA5, 0xA5, 0x2088⟩, ⟨0xA6, 0xA6, 0x2087⟩,
  ⟨0xA7, 0xA7, 0xF6FD⟩, ⟨0xA9, 0xA9, 0xF6DF⟩, ⟨0xAA, 0xAA, 0x2082⟩,
  ⟨0xAC, 0xAC, 0xF7A8⟩, ⟨0xAE, 0xAE, 0xF6F5⟩, ⟨0xAF, 0xAF, 0xF6F0⟩,
  ⟨0xB0, 0xB0, 0x2085⟩, ⟨0xB2, 0xB2, 0xF6E1⟩, ⟨0xB3, 0xB3, 0xF6E7⟩,
  ⟨0xB4, 0xB4, 0xF7FD⟩, ⟨0xB6, 0xB6, 0xF6E3⟩, ⟨0xB9, 0xB9, 0xF7FE⟩,
  ⟨0xBB, 0xBB, 0x2089⟩, ⟨0xBC, 0xBC, 0x2080⟩, ⟨0xBD, 0xBD, 0xF6FF⟩,
  ⟨0xBE, 0xBE, 0xF7E6⟩, ⟨0xBF, 0xBF, 0xF7F8⟩, ⟨0xC0, 0xC0, 0xF7BF⟩,
  ⟨0xC1, 0xC1, 0x2081⟩, ⟨0xC2, 0xC2, 0xF6F9⟩, ⟨0xC9, 0xC9, 0xF7B8⟩,
  ⟨0xCF, 0xCF, 0xF6FA⟩, ⟨0xD0, 0xD0, 0x2012⟩, ⟨0xD1, 0xD1, 0xF6E6⟩,
  ⟨0xD6, 0xD6, 0xF7A1⟩, ⟨0xD8, 0xD8, 0xF7FF⟩, ⟨0xDA, 0xDA, 0xB9⟩,
  ⟨0xDB, 0xDC, 0xB2⟩, ⟨0xDD, 0xE0, 0x2074⟩, ⟨0xE1, 0xE1, 0x2079⟩,
  ⟨0xE2, 0xE2, 0x2070⟩, ⟨0xE4, 0xE4, 0xF6EC⟩, ⟨0xE5, 0xE5, 0xF6F1⟩,
  ⟨0xE6, 0xE6, 0xF6F3⟩, ⟨0xE9, 0xE9, 0xF6ED⟩, ⟨0xEA, 0xEA, 0xF6F2⟩,
  ⟨0xEB, 0xEB, 0xF6EB⟩, ⟨0xF1, 0xF1, 0xF6EE⟩, ⟨0xF2, 0xF2, 0xF6FB⟩,
  ⟨0xF3, 0xF3, 0xF6F4⟩, ⟨0xF4, 0xF4, 0xF7AF⟩, ⟨0xF5, 0xF5, 0xF6EA⟩,
  ⟨0xF6, 0xF6, 0x207F⟩, ⟨0xF7, 0xF7, 0xF6EF⟩, ⟨0xF8, 0xF8, 0xF6E2⟩,
  ⟨0xF9, 0xF9, 0xF6E8⟩, ⟨0xFA, 0xFA, 0xF6F7⟩, ⟨0xFB, 0xFB, 0xF6FC⟩]

/-- The Windows code page for Latin text. -/
def winAnsi : Table := [
  ⟨0x20, 0x7E, 0x20⟩, ⟨0x7F, 0x7F, 0x2022⟩, ⟨0x80, 0x80, 0x20AC⟩,
  ⟨0x81, 0x81, 0x2022⟩, ⟨0x82, 0x82, 0x201A⟩, ⟨0x83, 0x83, 0x192⟩,
  ⟨0x84, 0x84, 0x201E⟩, ⟨0x85, 0x85, 0x2026⟩, ⟨0x86, 0x87, 0x2020⟩,
  ⟨0x88, 0x88, 0x2C6⟩, ⟨0x89, 0x89, 0x2030⟩, ⟨0x8A, 0x8A, 0x160⟩,
  ⟨0x8B, 0x8B, 0x2039⟩, ⟨0x8C, 0x8C, 0x152⟩, ⟨0x8D, 0x8D, 0x2022⟩,
  ⟨0x8E, 0x8E, 0x17D⟩, ⟨0x8F, 0x8F, 0x2022⟩, ⟨0x90, 0x90, 0x2022⟩,
  ⟨0x91, 0x92, 0x2018⟩, ⟨0x93, 0x94, 0x201C⟩, ⟨0x95, 0x95, 0x2022⟩,
  ⟨0x96, 0x97, 0x2013⟩, ⟨0x98, 0x98, 0x2DC⟩, ⟨0x99, 0x99, 0x2122⟩,
  ⟨0x9A, 0x9A, 0x161⟩, ⟨0x9B, 0x9B, 0x203A⟩, ⟨0x9C, 0x9C, 0x153⟩,
  ⟨0x9D, 0x9D, 0x2022⟩, ⟨0x9E, 0x9E, 0x17E⟩, ⟨0x9F, 0x9F, 0x178⟩,
  ⟨0xA0, 0xA0, 0x20⟩, ⟨0xA1, 0xAC, 0xA1⟩, ⟨0xAD, 0xAD, 0x2D⟩,
  ⟨0xAE, 0xFF, 0xAE⟩]

/-- The encoding of texts outside the pages of a document. -/
def pdfDoc : Table := [
  ⟨0x18, 0x18, 0x2D8⟩, ⟨0x19, 0x19, 0x2C7⟩, ⟨0x1A, 0x1A, 0x2C6⟩,
  ⟨0x1B, 0x1B, 0x2D9⟩, ⟨0x1C, 0x1C, 0x2DD⟩, ⟨0x1D, 0x1D, 0x2DB⟩,
  ⟨0x1E, 0x1E, 0x2DA⟩, ⟨0x1F, 0x1F, 0x2DC⟩, ⟨0x20, 0x7E, 0x20⟩,
  ⟨0x80, 0x80, 0x2022⟩, ⟨0x81, 0x82, 0x2020⟩, ⟨0x83, 0x83, 0x2026⟩,
  ⟨0x84, 0x84, 0x2014⟩, ⟨0x85, 0x85, 0x2013⟩, ⟨0x86, 0x86, 0x192⟩,
  ⟨0x87, 0x87, 0x2044⟩, ⟨0x88, 0x89, 0x2039⟩, ⟨0x8A, 0x8A, 0x2212⟩,
  ⟨0x8B, 0x8B, 0x2030⟩, ⟨0x8C, 0x8C, 0x201E⟩, ⟨0x8D, 0x8E, 0x201C⟩,
  ⟨0x8F, 0x91, 0x2018⟩, ⟨0x92, 0x92, 0x2122⟩, ⟨0x93, 0x94, 0xFB01⟩,
  ⟨0x95, 0x95, 0x141⟩, ⟨0x96, 0x96, 0x152⟩, ⟨0x97, 0x97, 0x160⟩,
  ⟨0x98, 0x98, 0x178⟩, ⟨0x99, 0x99, 0x17D⟩, ⟨0x9A, 0x9A, 0x131⟩,
  ⟨0x9B, 0x9B, 0x142⟩, ⟨0x9C, 0x9C, 0x153⟩, ⟨0x9D, 0x9D, 0x161⟩,
  ⟨0x9E, 0x9E, 0x17E⟩, ⟨0xA0, 0xA0, 0x20AC⟩, ⟨0xA1, 0xAC, 0xA1⟩,
  ⟨0xAE, 0xFF, 0xAE⟩]

end Prospectus.Pdf.Encoding
