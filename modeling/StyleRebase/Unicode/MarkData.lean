/-! # Combining marks: the data

The code points of General_Category Mark (Mn, Mc, Me) in the Unicode Character Database,
version 15.0, as ranges: each entry is the first code point of a range (hexadecimal) and `M`
for marks, `N` for the rest. -/

namespace StyleRebase.Unicode

/-- **The ranges of combining marks.** -/
def markText : List String :=
  ["0 N;300 M;370 N;483 M;48A N;591 M;5BE N;5BF M;5C0 N;5C1 M;5C3 N;5C4 M;5C6 N;5C7 M;5C8 N;",
   "610 M;61B N;64B M;660 N;670 M;671 N;6D6 M;6DD N;6DF M;6E5 N;6E7 M;6E9 N;6EA M;6EE N;711 M;",
   "712 N;730 M;74B N;7A6 M;7B1 N;7EB M;7F4 N;7FD M;7FE N;816 M;81A N;81B M;824 N;825 M;828 N;",
   "829 M;82E N;859 M;85C N;898 M;8A0 N;8CA M;8E2 N;8E3 M;904 N;93A M;93D N;93E M;950 N;951 M;",
   "958 N;962 M;964 N;981 M;984 N;9BC M;9BD N;9BE M;9C5 N;9C7 M;9C9 N;9CB M;9CE N;9D7 M;9D8 N;",
   "9E2 M;9E4 N;9FE M;9FF N;A01 M;A04 N;A3C M;A3D N;A3E M;A43 N;A47 M;A49 N;A4B M;A4E N;A51 M;",
   "A52 N;A70 M;A72 N;A75 M;A76 N;A81 M;A84 N;ABC M;ABD N;ABE M;AC6 N;AC7 M;ACA N;ACB M;ACE N;",
   "AE2 M;AE4 N;AFA M;B00 N;B01 M;B04 N;B3C M;B3D N;B3E M;B45 N;B47 M;B49 N;B4B M;B4E N;B55 M;",
   "B58 N;B62 M;B64 N;B82 M;B83 N;BBE M;BC3 N;BC6 M;BC9 N;BCA M;BCE N;BD7 M;BD8 N;C00 M;C05 N;",
   "C3C M;C3D N;C3E M;C45 N;C46 M;C49 N;C4A M;C4E N;C55 M;C57 N;C62 M;C64 N;C81 M;C84 N;CBC M;",
   "CBD N;CBE M;CC5 N;CC6 M;CC9 N;CCA M;CCE N;CD5 M;CD7 N;CE2 M;CE4 N;CF3 M;CF4 N;D00 M;D04 N;",
   "D3B M;D3D N;D3E M;D45 N;D46 M;D49 N;D4A M;D4E N;D57 M;D58 N;D62 M;D64 N;D81 M;D84 N;DCA M;",
   "DCB N;DCF M;DD5 N;DD6 M;DD7 N;DD8 M;DE0 N;DF2 M;DF4 N;E31 M;E32 N;E34 M;E3B N;E47 M;E4F N;",
   "EB1 M;EB2 N;EB4 M;EBD N;EC8 M;ECF N;F18 M;F1A N;F35 M;F36 N;F37 M;F38 N;F39 M;F3A N;F3E M;",
   "F40 N;F71 M;F85 N;F86 M;F88 N;F8D M;F98 N;F99 M;FBD N;FC6 M;FC7 N;102B M;103F N;1056 M;",
   "105A N;105E M;1061 N;1062 M;1065 N;1067 M;106E N;1071 M;1075 N;1082 M;108E N;108F M;1090 N;",
   "109A M;109E N;135D M;1360 N;1712 M;1716 N;1732 M;1735 N;1752 M;1754 N;1772 M;1774 N;17B4 M;",
   "17D4 N;17DD M;17DE N;180B M;180E N;180F M;1810 N;1885 M;1887 N;18A9 M;18AA N;1920 M;192C N;",
   "1930 M;193C N;1A17 M;1A1C N;1A55 M;1A5F N;1A60 M;1A7D N;1A7F M;1A80 N;1AB0 M;1ACF N;1B00 M;",
   "1B05 N;1B34 M;1B45 N;1B6B M;1B74 N;1B80 M;1B83 N;1BA1 M;1BAE N;1BE6 M;1BF4 N;1C24 M;1C38 N;",
   "1CD0 M;1CD3 N;1CD4 M;1CE9 N;1CED M;1CEE N;1CF4 M;1CF5 N;1CF7 M;1CFA N;1DC0 M;1E00 N;20D0 M;",
   "20F1 N;2CEF M;2CF2 N;2D7F M;2D80 N;2DE0 M;2E00 N;302A M;3030 N;3099 M;309B N;A66F M;A673 N;",
   "A674 M;A67E N;A69E M;A6A0 N;A6F0 M;A6F2 N;A802 M;A803 N;A806 M;A807 N;A80B M;A80C N;A823 M;",
   "A828 N;A82C M;A82D N;A880 M;A882 N;A8B4 M;A8C6 N;A8E0 M;A8F2 N;A8FF M;A900 N;A926 M;A92E N;",
   "A947 M;A954 N;A980 M;A984 N;A9B3 M;A9C1 N;A9E5 M;A9E6 N;AA29 M;AA37 N;AA43 M;AA44 N;AA4C M;",
   "AA4E N;AA7B M;AA7E N;AAB0 M;AAB1 N;AAB2 M;AAB5 N;AAB7 M;AAB9 N;AABE M;AAC0 N;AAC1 M;AAC2 N;",
   "AAEB M;AAF0 N;AAF5 M;AAF7 N;ABE3 M;ABEB N;ABEC M;ABEE N;FB1E M;FB1F N;FE00 M;FE10 N;FE20 M;",
   "FE30 N;101FD M;101FE N;102E0 M;102E1 N;10376 M;1037B N;10A01 M;10A04 N;10A05 M;10A07 N;",
   "10A0C M;10A10 N;10A38 M;10A3B N;10A3F M;10A40 N;10AE5 M;10AE7 N;10D24 M;10D28 N;10EAB M;",
   "10EAD N;10EFD M;10F00 N;10F46 M;10F51 N;10F82 M;10F86 N;11000 M;11003 N;11038 M;11047 N;",
   "11070 M;11071 N;11073 M;11075 N;1107F M;11083 N;110B0 M;110BB N;110C2 M;110C3 N;11100 M;",
   "11103 N;11127 M;11135 N;11145 M;11147 N;11173 M;11174 N;11180 M;11183 N;111B3 M;111C1 N;",
   "111C9 M;111CD N;111CE M;111D0 N;1122C M;11238 N;1123E M;1123F N;11241 M;11242 N;112DF M;",
   "112EB N;11300 M;11304 N;1133B M;1133D N;1133E M;11345 N;11347 M;11349 N;1134B M;1134E N;",
   "11357 M;11358 N;11362 M;11364 N;11366 M;1136D N;11370 M;11375 N;11435 M;11447 N;1145E M;",
   "1145F N;114B0 M;114C4 N;115AF M;115B6 N;115B8 M;115C1 N;115DC M;115DE N;11630 M;11641 N;",
   "116AB M;116B8 N;1171D M;1172C N;1182C M;1183B N;11930 M;11936 N;11937 M;11939 N;1193B M;",
   "1193F N;11940 M;11941 N;11942 M;11944 N;119D1 M;119D8 N;119DA M;119E1 N;119E4 M;119E5 N;",
   "11A01 M;11A0B N;11A33 M;11A3A N;11A3B M;11A3F N;11A47 M;11A48 N;11A51 M;11A5C N;11A8A M;",
   "11A9A N;11C2F M;11C37 N;11C38 M;11C40 N;11C92 M;11CA8 N;11CA9 M;11CB7 N;11D31 M;11D37 N;",
   "11D3A M;11D3B N;11D3C M;11D3E N;11D3F M;11D46 N;11D47 M;11D48 N;11D8A M;11D8F N;11D90 M;",
   "11D92 N;11D93 M;11D98 N;11EF3 M;11EF7 N;11F00 M;11F02 N;11F03 M;11F04 N;11F34 M;11F3B N;",
   "11F3E M;11F43 N;13440 M;13441 N;13447 M;13456 N;16AF0 M;16AF5 N;16B30 M;16B37 N;16F4F M;",
   "16F50 N;16F51 M;16F88 N;16F8F M;16F93 N;16FE4 M;16FE5 N;16FF0 M;16FF2 N;1BC9D M;1BC9F N;",
   "1CF00 M;1CF2E N;1CF30 M;1CF47 N;1D165 M;1D16A N;1D16D M;1D173 N;1D17B M;1D183 N;1D185 M;",
   "1D18C N;1D1AA M;1D1AE N;1D242 M;1D245 N;1DA00 M;1DA37 N;1DA3B M;1DA6D N;1DA75 M;1DA76 N;",
   "1DA84 M;1DA85 N;1DA9B M;1DAA0 N;1DAA1 M;1DAB0 N;1E000 M;1E007 N;1E008 M;1E019 N;1E01B M;",
   "1E022 N;1E023 M;1E025 N;1E026 M;1E02B N;1E08F M;1E090 N;1E130 M;1E137 N;1E2AE M;1E2AF N;",
   "1E2EC M;1E2F0 N;1E4EC M;1E4F0 N;1E8D0 M;1E8D7 N;1E944 M;1E94B N;E0100 M;E01F0 N"]

end StyleRebase.Unicode
