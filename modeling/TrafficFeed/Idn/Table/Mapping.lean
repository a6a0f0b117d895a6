/-!
# Characters of domain names

What becomes of each character of a domain name before the name is checked. A table is a text of
entries with blanks between them. The letter of an entry is its rule, and its numbers are code
points in hexadecimal, a first and a last one:

* `k`: the character is kept;
* `i`: the character is left out;
* `s`: the characters go over to those that follow each other from the number after `>` on;
* `p`: of each pair the first goes over to the second, which is kept;
* `m`: the character is replaced by those after `>`, with points between them.

A character in no entry is not allowed.
-/

namespace TrafficFeed.Idn.Table

/-- The alphabets and syllabaries up to 1FFF. -/
def scripts : String :=
  "k0-40 s41-5a>61 k5b-7f sa0>20 ka1-a7 ma8>20.308 ka9 saa>61 kab-ac iad kae maf>20.304 kb0-b1
  sb2-b3>32 mb4>20.301 sb5>3bc kb6-b7 mb8>20.327 sb9>31 sba>6f kbb mbc>31.2044.34 mbd>31.2044.32
  mbe>33.2044.34 kbf sc0-d6>e0 kd7 sd8-de>f8 kdf-ff p100-12f m130>69.307 k131 m132>69.6a
  m133>69.6a p134-137 k138 p139-13e m13f>6c.b7 m140>6c.b7 p141-148 m149>2bc.6e p14a-177 s178>ff
  p179-17e s17f>73 k180 s181>253 p182-185 s186>254 s187>188 k188 s189-18a>256 s18b>18c k18c-18d
  s18e>1dd s18f>259 s190>25b s191>192 k192 s193>260 s194>263 k195 s196>269 s197>268 s198>199
  k199-19b s19c>26f s19d>272 k19e s19f>275 p1a0-1a5 s1a6>280 s1a7>1a8 k1a8 s1a9>283 k1aa-1ab
  s1ac>1ad k1ad s1ae>288 s1af>1b0 k1b0 s1b1-1b2>28a p1b3-1b6 s1b7>292 s1b8>1b9 k1b9-1bb s1bc>1bd
  k1bd-1c3 m1c4>64.17e m1c5>64.17e m1c6>64.17e m1c7>6c.6a m1c8>6c.6a m1c9>6c.6a m1ca>6e.6a
  m1cb>6e.6a m1cc>6e.6a p1cd-1dc k1dd p1de-1ef k1f0 m1f1>64.7a m1f2>64.7a m1f3>64.7a s1f4>1f5
  k1f5 s1f6>195 s1f7>1bf p1f8-21f s220>19e k221 p222-233 k234-239 s23a>2c65 s23b>23c k23c
  s23d>19a s23e>2c66 k23f-240 s241>242 k242 s243>180 s244>289 s245>28c p246-24f k250-2af s2b0>68
  s2b1>266 s2b2>6a s2b3>72 s2b4>279 s2b5>27b s2b6>281 s2b7>77 s2b8>79 k2b9-2d7 m2d8>20.306
  m2d9>20.307 m2da>20.30a m2db>20.328 m2dc>20.303 m2dd>20.30b k2de-2df s2e0>263 s2e1>6c s2e2>73
  s2e3>78 s2e4>295 k2e5-33f s340-341>300 k342 s343>313 m344>308.301 s345>3b9 k346-34e i34f
  k350-36f p370-373 s374>2b9 k375 s376>377 k377 m37a>20.3b9 k37b-37d s37e>3b s37f>3f3 m384>20.301
  m385>20.308.301 s386>3ac s387>b7 s388-38a>3ad s38c>3cc s38e-38f>3cd k390 s391-3a1>3b1
  s3a3-3ab>3c3 k3ac-3ce s3cf>3d7 s3d0>3b2 s3d1>3b8 s3d2>3c5 s3d3>3cd s3d4>3cb s3d5>3c6 s3d6>3c0
  k3d7 p3d8-3ef s3f0>3ba s3f1>3c1 s3f2>3c3 k3f3 s3f4>3b8 s3f5>3b5 k3f6 s3f7>3f8 k3f8 s3f9>3c3
  s3fa>3fb k3fb-3fc s3fd-3ff>37b s400-40f>450 s410-42f>430 k430-45f p460-481 k482-489 p48a-4bf
  s4c0>4cf p4c1-4ce k4cf p4d0-52f s531-556>561 s558>567 k559-586 m587>565.582 k588-58a s58b>56b
  k58d-58f k591-5c8 k5c8 k5d0-5ea k5ef-5f4 k606-61b k61d-674 m675>627.674 m676>648.674
  m677>6c7.674 m678>64a.674 k679-6dc k6de-70d k710-74a k74d-7b1 k7c0-7fa k7fd-82d k830-83e
  k840-85b k85e k860-86a k870-88f k897-8e1 k8e3-957 m958>915.93c m959>916.93c m95a>917.93c
  m95b>91c.93c m95c>921.93c m95d>922.93c m95e>92b.93c m95f>92f.93c k960-983 k985-98c k98f-990
  k993-9a8 k9aa-9b0 k9b2 k9b6-9b9 k9bc-9c4 k9c7-9c8 k9cb-9ce k9d7 m9dc>9a1.9bc m9dd>9a2.9bc
  m9df>9af.9bc k9e0-9e3 k9e6-9fe ka01-a03 ka05-a0a ka0f-a10 ka13-a28 ka2a-a30 ka32 ma33>a32.a3c
  ka35 ma36>a38.a3c ka38-a39 ka3c ka3e-a42 ka47-a48 ka4b-a4d ka51 ma59>a16.a3c ma5a>a17.a3c
  ma5b>a1c.a3c ka5c ma5e>a2b.a3c ka66-a76 ka81-a83 ka85-a8d ka8f-a91 ka93-aa8 kaaa-ab0 kab2-ab3
  kab5-ab9 kabc-ac5 kac7-ac9 kacb-acd kad0 kae0-ae3 kae6-af1 kaf9-aff kb01-b03 kb05-b0c kb0f-b10
  kb13-b28 kb2a-b30 kb32-b33 kb35-b39 kb3c-b44 kb47-b48 kb4b-b4d kb53 kb55-b57 mb5c>b21.b3c
  mb5d>b22.b3c kb5f-b63 kb66-b77 kb82-b83 kb85-b8a kb8e-b90 kb92-b95 kb99-b9a kb9c kb9e-b9f
  kba3-ba4 kba8-baa kbae-bb9 kbbe-bc2 kbc6-bc8 kbca-bcd kbd0 kbd7 kbe6-bfa kc00-c0c kc0e-c10
  kc12-c28 kc2a-c39 kc3c-c44 kc46-c48 kc4a-c4d kc55-c56 kc58-c5a kc5c-c5d kc60-c63 kc66-c6f
  kc77-c8c kc8e-c90 kc92-ca8 kcaa-cb3 kcb5-cb9 kcbc-cc4 kcc6-cc8 kcca-ccd kcd5-cd6 kcdc-cde
  kce0-ce3 kce6-cef kcf1-cf3 kd00-d0c kd0e-d10 kd12-d44 kd46-d48 kd4a-d4f kd54-d63 kd66-d7f
  kd81-d83 kd85-d96 kd9a-db1 kdb3-dbb kdbd kdc0-dc6 kdca kdcf-dd4 kdd6 kdd8-ddf kde6-def kdf2-df4
  ke01-e32 me33>e4d.e32 ke34-e3a ke3f-e5b ke81-e82 ke84 ke86-e8a ke8c-ea3 kea5 kea7-eb2
  meb3>ecd.eb2 keb4-ebd kec0-ec4 kec6 kec8-ece ked0-ed9 medc>eab.e99 medd>eab.ea1 kede-edf
  kf00-f0b sf0c>f0b kf0d-f42 mf43>f42.fb7 kf44-f47 kf49-f4c mf4d>f4c.fb7 kf4e-f51 mf52>f51.fb7
  kf53-f56 mf57>f56.fb7 kf58-f5b mf5c>f5b.fb7 kf5d-f68 mf69>f40.fb5 kf6a-f6c kf71-f72
  mf73>f71.f72 kf74 mf75>f71.f74 mf76>fb2.f80 mf77>fb2.f71.f80 mf78>fb3.f80 mf79>fb3.f71.f80
  kf7a-f80 mf81>f71.f80 kf82-f92 mf93>f92.fb7 kf94-f97 kf99-f9c mf9d>f9c.fb7 kf9e-fa1
  mfa2>fa1.fb7 kfa3-fa6 mfa7>fa6.fb7 kfa8-fab mfac>fab.fb7 kfad-fb8 mfb9>f90.fb5 kfba-fbc
  kfbe-fcc kfce-fda k1000-109f s10a0-10c5>2d00 s10c7>2d27 s10cd>2d2d k10d0-10fb s10fc>10dc
  k10fd-115e i115f-1160 k1161-1248 k124a-124d k1250-1256 k1258 k125a-125d k1260-1288 k128a-128d
  k1290-12b0 k12b2-12b5 k12b8-12be k12c0 k12c2-12c5 k12c8-12d6 k12d8-1310 k1312-1315 k1318-135a
  k135d-137c k1380-1399 k13a0-13f5 s13f8-13fd>13f0 k1400-167f k1681-169c k16a0-16f8 k1700-1715
  k171f-1736 k1740-1753 k1760-176c k176e-1770 k1772-1773 k1780-17b3 i17b4-17b5 k17b6-17dd
  k17e0-17e9 k17f0-17f9 k1800-180a i180b-180f k1810-1819 k1820-1878 k1880-18aa k18b0-18f5
  k1900-191e k1920-192b k1930-193b k1940 k1944-196d k1970-1974 k1980-19ab k19b0-19c9 k19d0-19da
  k19de-1a1b k1a1e-1a5e k1a60-1a7c k1a7f-1a89 k1a90-1a99 k1aa0-1aad k1ab0-1add k1ae0-1aec k1aec
  k1b00-1b4c k1b4e-1bf3 k1bfc-1c37 k1c3b-1c49 k1c4d-1c7f s1c80>432 s1c81>434 s1c82>43e
  s1c83-1c84>441 s1c85>442 s1c86>44a s1c87>463 s1c88>a64b s1c89>1c8a k1c8a s1c90-1cba>10d0
  s1cbd-1cbf>10fd k1cc0-1cc7 k1cd0-1cfa k1d00-1d2b s1d2c>61 s1d2d>e6 s1d2e>62 k1d2f s1d30-1d31>64
  s1d32>1dd s1d33-1d3a>67 k1d3b s1d3c>6f s1d3d>223 s1d3e>70 s1d3f>72 s1d40-1d41>74 s1d42>77
  s1d43>61 s1d44-1d45>250 s1d46>1d02 s1d47>62 s1d48-1d49>64 s1d4a>259 s1d4b-1d4c>25b s1d4d>67
  k1d4e s1d4f>6b s1d50>6d s1d51>14b s1d52>6f s1d53>254 s1d54-1d55>1d16 s1d56>70 s1d57-1d58>74
  s1d59>1d1d s1d5a>26f s1d5b>76 s1d5c>1d25 s1d5d-1d5f>3b2 s1d60-1d61>3c6 s1d62>69 s1d63>72
  s1d64-1d65>75 s1d66-1d67>3b2 s1d68>3c1 s1d69-1d6a>3c6 k1d6b-1d77 s1d78>43d k1d79-1d9a s1d9b>252
  s1d9c>63 s1d9d>255 s1d9e>f0 s1d9f>25c s1da0>66 s1da1>25f s1da2>261 s1da3>265 s1da4-1da6>268
  s1da7>1d7b s1da8>29d s1da9>26d s1daa>1d85 s1dab>29f s1dac>271 s1dad>270 s1dae-1db1>272
  s1db2>278 s1db3-1db4>282 s1db5>1ab s1db6-1db7>289 s1db8>1d1c s1db9-1dba>28b s1dbb>7a
  s1dbc-1dbe>290 s1dbf>3b8 k1dc0-1dff p1e00-1e95 k1e96-1e99 m1e9a>61.2be s1e9b>1e61 k1e9c-1e9d
  s1e9e>df k1e9f p1ea0-1eff k1f00-1f07 s1f08-1f0f>1f00 k1f10-1f15 s1f18-1f1d>1f10 k1f20-1f27
  s1f28-1f2f>1f20 k1f30-1f37 s1f38-1f3f>1f30 k1f40-1f45 s1f48-1f4d>1f40 k1f50-1f57 s1f59>1f51
  s1f5b>1f53 s1f5d>1f55 s1f5f>1f57 k1f60-1f67 s1f68-1f6f>1f60 k1f70 s1f71>3ac k1f72 s1f73>3ad
  k1f74 s1f75>3ae k1f76 s1f77>3af k1f78 s1f79>3cc k1f7a s1f7b>3cd k1f7c s1f7d>3ce m1f80>1f00.3b9
  m1f81>1f01.3b9 m1f82>1f02.3b9 m1f83>1f03.3b9 m1f84>1f04.3b9 m1f85>1f05.3b9 m1f86>1f06.3b9
  m1f87>1f07.3b9 m1f88>1f00.3b9 m1f89>1f01.3b9 m1f8a>1f02.3b9 m1f8b>1f03.3b9 m1f8c>1f04.3b9
  m1f8d>1f05.3b9 m1f8e>1f06.3b9 m1f8f>1f07.3b9 m1f90>1f20.3b9 m1f91>1f21.3b9 m1f92>1f22.3b9
  m1f93>1f23.3b9 m1f94>1f24.3b9 m1f95>1f25.3b9 m1f96>1f26.3b9 m1f97>1f27.3b9 m1f98>1f20.3b9
  m1f99>1f21.3b9 m1f9a>1f22.3b9 m1f9b>1f23.3b9 m1f9c>1f24.3b9 m1f9d>1f25.3b9 m1f9e>1f26.3b9
  m1f9f>1f27.3b9 m1fa0>1f60.3b9 m1fa1>1f61.3b9 m1fa2>1f62.3b9 m1fa3>1f63.3b9 m1fa4>1f64.3b9
  m1fa5>1f65.3b9 m1fa6>1f66.3b9 m1fa7>1f67.3b9 m1fa8>1f60.3b9 m1fa9>1f61.3b9 m1faa>1f62.3b9
  m1fab>1f63.3b9 m1fac>1f64.3b9 m1fad>1f65.3b9 m1fae>1f66.3b9 m1faf>1f67.3b9 k1fb0-1fb1
  m1fb2>1f70.3b9 m1fb3>3b1.3b9 m1fb4>3ac.3b9 k1fb6 m1fb7>1fb6.3b9 s1fb8-1fb9>1fb0 s1fba>1f70
  s1fbb>3ac m1fbc>3b1.3b9 m1fbd>20.313 s1fbe>3b9 m1fbf>20.313 m1fc0>20.342 m1fc1>20.308.342
  m1fc2>1f74.3b9 m1fc3>3b7.3b9 m1fc4>3ae.3b9 k1fc6 m1fc7>1fc6.3b9 s1fc8>1f72 s1fc9>3ad s1fca>1f74
  s1fcb>3ae m1fcc>3b7.3b9 m1fcd>20.313.300 m1fce>20.313.301 m1fcf>20.313.342 k1fd0-1fd2 s1fd3>390
  k1fd6-1fd7 s1fd8-1fd9>1fd0 s1fda>1f76 s1fdb>3af m1fdd>20.314.300 m1fde>20.314.301
  m1fdf>20.314.342 k1fe0-1fe2 s1fe3>3b0 k1fe4-1fe7 s1fe8-1fe9>1fe0 s1fea>1f7a s1feb>3cd
  s1fec>1fe5 m1fed>20.308.300 m1fee>20.308.301 s1fef>60 m1ff2>1f7c.3b9 m1ff3>3c9.3b9
  m1ff4>3ce.3b9 k1ff6 m1ff7>1ff6.3b9 s1ff8>1f78 s1ff9>3cc s1ffa>1f7c s1ffb>3ce m1ffc>3c9.3b9
  m1ffd>20.301 m1ffe>20.314"

/-- Punctuation, symbols and the East Asian syllabaries, 2000 to 33FF. -/
def symbols : String :=
  "s2000>20 s2001>20 s2002>20 s2003>20 s2004>20 s2005>20 s2006>20 s2007>20 s2008>20 s2009>20
  s200a>20 i200b k200c-200d k2010 s2011>2010 k2012-2016 m2017>20.333 k2018-2023 k2027 s202f>20
  k2030-2032 m2033>2032.2032 m2034>2032.2032.2032 k2035 m2036>2035.2035 m2037>2035.2035.2035
  k2038-203b m203c>21.21 k203d m203e>20.305 k203f-2046 m2047>3f.3f m2048>3f.21 m2049>21.3f
  k204a-2056 m2057>2032.2032.2032.2032 k2058-205e s205f>20 i2060-2064 i206a-206f s2070>30
  s2071>69 s2074-2079>34 s207a>2b s207b>2212 s207c>3d s207d-207e>28 s207f>6e s2080-2089>30
  s208a>2b s208b>2212 s208c>3d s208d-208e>28 s2090>61 s2091>65 s2092>6f s2093>78 s2094>259
  s2095>68 s2096-2099>6b s209a>70 s209b-209c>73 s209d>77 s209e-209f>79 k20a0-20a7 m20a8>72.73
  k20a9-20c2 k20c2 k20d0-20f0 m2100>61.2f.63 m2101>61.2f.73 s2102>63 m2103>b0.63 k2104
  m2105>63.2f.6f m2106>63.2f.75 s2107>25b k2108 m2109>b0.66 s210a-210b>67 s210c>68 s210d>68
  s210e>68 s210f>127 s2110>69 s2111>69 s2112>6c s2113>6c k2114 s2115>6e m2116>6e.6f k2117-2118
  s2119-211b>70 s211c>72 s211d>72 k211e-211f m2120>73.6d m2121>74.65.6c m2122>74.6d k2123
  s2124>7a k2125 s2126>3c9 k2127 s2128>7a k2129 s212a>6b s212b>e5 s212c-212d>62 k212e s212f>65
  s2130-2131>65 s2132>214e s2133>6d s2134>6f s2135-2138>5d0 s2139>69 k213a m213b>66.61.78
  s213c>3c0 s213d>3b3 s213e>3b3 s213f>3c0 s2140>2211 k2141-2144 s2145>64 s2146-2147>64
  s2148-2149>69 k214a-214f m2150>31.2044.37 m2151>31.2044.39 m2152>31.2044.31.30 m2153>31.2044.33
  m2154>32.2044.33 m2155>31.2044.35 m2156>32.2044.35 m2157>33.2044.35 m2158>34.2044.35
  m2159>31.2044.36 m215a>35.2044.36 m215b>31.2044.38 m215c>33.2044.38 m215d>35.2044.38
  m215e>37.2044.38 m215f>31.2044 s2160>69 m2161>69.69 m2162>69.69.69 m2163>69.76 s2164>76
  m2165>76.69 m2166>76.69.69 m2167>76.69.69.69 m2168>69.78 s2169>78 m216a>78.69 m216b>78.69.69
  s216c>6c s216d-216e>63 s216f>6d s2170>69 m2171>69.69 m2172>69.69.69 m2173>69.76 s2174>76
  m2175>76.69 m2176>76.69.69 m2177>76.69.69.69 m2178>69.78 s2179>78 m217a>78.69 m217b>78.69.69
  s217c>6c s217d-217e>63 s217f>6d k2180-2182 s2183>2184 k2184-2188 m2189>30.2044.33 k218a-218b
  k2190-222b m222c>222b.222b m222d>222b.222b.222b k222e m222f>222e.222e m2230>222e.222e.222e
  k2231-2328 s2329-232a>3008 k232b-2429 k2440-244a s2460-2468>31 m2469>31.30 m246a>31.31
  m246b>31.32 m246c>31.33 m246d>31.34 m246e>31.35 m246f>31.36 m2470>31.37 m2471>31.38 m2472>31.39
  m2473>32.30 m2474>28.31.29 m2475>28.32.29 m2476>28.33.29 m2477>28.34.29 m2478>28.35.29
  m2479>28.36.29 m247a>28.37.29 m247b>28.38.29 m247c>28.39.29 m247d>28.31.30.29 m247e>28.31.31.29
  m247f>28.31.32.29 m2480>28.31.33.29 m2481>28.31.34.29 m2482>28.31.35.29 m2483>28.31.36.29
  m2484>28.31.37.29 m2485>28.31.38.29 m2486>28.31.39.29 m2487>28.32.30.29 m249c>28.61.29
  m249d>28.62.29 m249e>28.63.29 m249f>28.64.29 m24a0>28.65.29 m24a1>28.66.29 m24a2>28.67.29
  m24a3>28.68.29 m24a4>28.69.29 m24a5>28.6a.29 m24a6>28.6b.29 m24a7>28.6c.29 m24a8>28.6d.29
  m24a9>28.6e.29 m24aa>28.6f.29 m24ab>28.70.29 m24ac>28.71.29 m24ad>28.72.29 m24ae>28.73.29
  m24af>28.74.29 m24b0>28.75.29 m24b1>28.76.29 m24b2>28.77.29 m24b3>28.78.29 m24b4>28.79.29
  m24b5>28.7a.29 s24b6-24cf>61 s24d0-24e9>61 s24ea>30 k24eb-2a0b m2a0c>222b.222b.222b.222b
  k2a0d-2a73 m2a74>3a.3a.3d m2a75>3d.3d m2a76>3d.3d.3d k2a77-2adb m2adc>2add.338 k2add-2b73
  k2b76-2bff s2c00-2c2f>2c30 k2c30-2c5f s2c60>2c61 k2c61 s2c62>26b s2c63>1d7d s2c64>27d
  k2c65-2c66 p2c67-2c6c s2c6d>251 s2c6e>271 s2c6f>250 s2c70>252 k2c71 s2c72>2c73 k2c73-2c74
  s2c75>2c76 k2c76-2c7b s2c7c>6a s2c7d>76 s2c7e-2c7f>23f p2c80-2ce3 k2ce4-2cea p2ceb-2cee
  k2cef-2cf1 s2cf2>2cf3 k2cf3 k2cf9-2d25 k2d27 k2d2d k2d30-2d67 s2d6f>2d61 k2d70 k2d7f-2d96
  k2da0-2da6 k2da8-2dae k2db0-2db6 k2db8-2dbe k2dc0-2dc6 k2dc8-2dce k2dd0-2dd6 k2dd8-2dde
  k2de0-2e5d k2e60 k2e80-2e99 k2e9b-2e9e s2e9f>6bcd k2ea0-2ef2 s2ef3>9f9f s2f00>4e00 s2f01>4e28
  s2f02>4e36 s2f03>4e3f s2f04>4e59 s2f05>4e85 s2f06>4e8c s2f07>4ea0 s2f08>4eba s2f09>513f
  s2f0a>5165 s2f0b>516b s2f0c>5182 s2f0d>5196 s2f0e>51ab s2f0f>51e0 s2f10>51f5 s2f11>5200
  s2f12>529b s2f13>52f9 s2f14>5315 s2f15>531a s2f16>5338 s2f17>5341 s2f18>535c s2f19>5369
  s2f1a>5382 s2f1b>53b6 s2f1c>53c8 s2f1d>53e3 s2f1e>56d7 s2f1f>571f s2f20>58eb s2f21>5902
  s2f22>590a s2f23>5915 s2f24>5927 s2f25>5973 s2f26>5b50 s2f27>5b80 s2f28>5bf8 s2f29>5c0f
  s2f2a>5c22 s2f2b>5c38 s2f2c>5c6e s2f2d>5c71 s2f2e>5ddb s2f2f>5de5 s2f30>5df1 s2f31>5dfe
  s2f32>5e72 s2f33>5e7a s2f34>5e7f s2f35>5ef4 s2f36>5efe s2f37>5f0b s2f38>5f13 s2f39>5f50
  s2f3a>5f61 s2f3b>5f73 s2f3c>5fc3 s2f3d>6208 s2f3e>6236 s2f3f>624b s2f40>652f s2f41>6534
  s2f42>6587 s2f43>6597 s2f44>65a4 s2f45>65b9 s2f46>65e0 s2f47>65e5 s2f48>66f0 s2f49>6708
  s2f4a>6728 s2f4b>6b20 s2f4c>6b62 s2f4d>6b79 s2f4e>6bb3 s2f4f>6bcb s2f50>6bd4 s2f51>6bdb
  s2f52>6c0f s2f53>6c14 s2f54>6c34 s2f55>706b s2f56>722a s2f57>7236 s2f58>723b s2f59>723f
  s2f5a>7247 s2f5b>7259 s2f5c>725b s2f5d>72ac s2f5e>7384 s2f5f>7389 s2f60>74dc s2f61>74e6
  s2f62>7518 s2f63>751f s2f64>7528 s2f65>7530 s2f66>758b s2f67>7592 s2f68>7676 s2f69>767d
  s2f6a>76ae s2f6b>76bf s2f6c>76ee s2f6d>77db s2f6e>77e2 s2f6f>77f3 s2f70>793a s2f71>79b8
  s2f72>79be s2f73>7a74 s2f74>7acb s2f75>7af9 s2f76>7c73 s2f77>7cf8 s2f78>7f36 s2f79>7f51
  s2f7a>7f8a s2f7b>7fbd s2f7c>8001 s2f7d>800c s2f7e>8012 s2f7f>8033 s2f80>807f s2f81>8089
  s2f82>81e3 s2f83>81ea s2f84>81f3 s2f85>81fc s2f86>820c s2f87>821b s2f88>821f s2f89>826e
  s2f8a>8272 s2f8b>8278 s2f8c>864d s2f8d>866b s2f8e>8840 s2f8f>884c s2f90>8863 s2f91>897e
  s2f92>898b s2f93>89d2 s2f94>8a00 s2f95>8c37 s2f96>8c46 s2f97>8c55 s2f98>8c78 s2f99>8c9d
  s2f9a>8d64 s2f9b>8d70 s2f9c>8db3 s2f9d>8eab s2f9e>8eca s2f9f>8f9b s2fa0>8fb0 s2fa1>8fb5
  s2fa2>9091 s2fa3>9149 s2fa4>91c6 s2fa5>91cc s2fa6>91d1 s2fa7>9577 s2fa8>9580 s2fa9>961c
  s2faa>96b6 s2fab>96b9 s2fac>96e8 s2fad>9751 s2fae>975e s2faf>9762 s2fb0>9769 s2fb1>97cb
  s2fb2>97ed s2fb3>97f3 s2fb4>9801 s2fb5>98a8 s2fb6>98db s2fb7>98df s2fb8>9996 s2fb9>9999
  s2fba>99ac s2fbb>9aa8 s2fbc>9ad8 s2fbd>9adf s2fbe>9b25 s2fbf>9b2f s2fc0>9b32 s2fc1>9b3c
  s2fc2>9b5a s2fc3>9ce5 s2fc4>9e75 s2fc5>9e7f s2fc6>9ea5 s2fc7>9ebb s2fc8>9ec3 s2fc9>9ecd
  s2fca>9ed1 s2fcb>9ef9 s2fcc>9efd s2fcd>9f0e s2fce>9f13 s2fcf>9f20 s2fd0>9f3b s2fd1>9f4a
  s2fd2>9f52 s2fd3>9f8d s2fd4>9f9c s2fd5>9fa0 s3000>20 k3001 s3002>2e k3003-3035 s3036>3012 k3037
  s3038>5341 s3039-303a>5344 k303b-303f k3041-3096 k3099-309a m309b>20.3099 m309c>20.309a
  k309d-309e m309f>3088.308a k30a0-30fe m30ff>30b3.30c8 k3105-312f s3131-3132>1100 s3133>11aa
  s3134>1102 s3135-3136>11ac s3137-3139>1103 s313a-313f>11b0 s3140>111a s3141-3143>1106
  s3144>1121 s3145-314e>1109 s314f-3163>1161 i3164 s3165-3166>1114 s3167-3168>11c7 s3169>11cc
  s316a>11ce s316b>11d3 s316c>11d7 s316d>11d9 s316e>111c s316f>11dd s3170>11df s3171-3172>111d
  s3173>1120 s3174-3175>1122 s3176>1127 s3177>1129 s3178-317c>112b s317d>1132 s317e>1136
  s317f>1140 s3180>1147 s3181>114c s3182-3183>11f1 s3184-3186>1157 s3187-3188>1184 s3189>1188
  s318a-318b>1191 s318c>1194 s318d>119e s318e>11a1 k3190-3191 s3192>4e00 s3193>4e8c s3194>4e09
  s3195>56db s3196>4e0a s3197>4e2d s3198>4e0b s3199>7532 s319a>4e59 s319b>4e19 s319c>4e01
  s319d>5929 s319e>5730 s319f>4eba k31a0-31e5 k31f0-31ff m3200>28.1100.29 m3201>28.1102.29
  m3202>28.1103.29 m3203>28.1105.29 m3204>28.1106.29 m3205>28.1107.29 m3206>28.1109.29
  m3207>28.110b.29 m3208>28.110c.29 m3209>28.110e.29 m320a>28.110f.29 m320b>28.1110.29
  m320c>28.1111.29 m320d>28.1112.29 m320e>28.ac00.29 m320f>28.b098.29 m3210>28.b2e4.29
  m3211>28.b77c.29 m3212>28.b9c8.29 m3213>28.bc14.29 m3214>28.c0ac.29 m3215>28.c544.29
  m3216>28.c790.29 m3217>28.cc28.29 m3218>28.ce74.29 m3219>28.d0c0.29 m321a>28.d30c.29
  m321b>28.d558.29 m321c>28.c8fc.29 m321d>28.c624.c804.29 m321e>28.c624.d6c4.29 m3220>28.4e00.29
  m3221>28.4e8c.29 m3222>28.4e09.29 m3223>28.56db.29 m3224>28.4e94.29 m3225>28.516d.29
  m3226>28.4e03.29 m3227>28.516b.29 m3228>28.4e5d.29 m3229>28.5341.29 m322a>28.6708.29
  m322b>28.706b.29 m322c>28.6c34.29 m322d>28.6728.29 m322e>28.91d1.29 m322f>28.571f.29
  m3230>28.65e5.29 m3231>28.682a.29 m3232>28.6709.29 m3233>28.793e.29 m3234>28.540d.29
  m3235>28.7279.29 m3236>28.8ca1.29 m3237>28.795d.29 m3238>28.52b4.29 m3239>28.4ee3.29
  m323a>28.547c.29 m323b>28.5b66.29 m323c>28.76e3.29 m323d>28.4f01.29 m323e>28.8cc7.29
  m323f>28.5354.29 m3240>28.796d.29 m3241>28.4f11.29 m3242>28.81ea.29 m3243>28.81f3.29 s3244>554f
  s3245>5e7c s3246>6587 s3247>7b8f k3248-324f m3250>70.74.65 m3251>32.31 m3252>32.32 m3253>32.33
  m3254>32.34 m3255>32.35 m3256>32.36 m3257>32.37 m3258>32.38 m3259>32.39 m325a>33.30 m325b>33.31
  m325c>33.32 m325d>33.33 m325e>33.34 m325f>33.35 s3260>1100 s3261-3262>1102 s3263-3265>1105
  s3266>1109 s3267-3268>110b s3269-326d>110e s326e>ac00 s326f>b098 s3270>b2e4 s3271>b77c
  s3272>b9c8 s3273>bc14 s3274>c0ac s3275>c544 s3276>c790 s3277>cc28 s3278>ce74 s3279>d0c0
  s327a>d30c s327b>d558 m327c>cc38.ace0 m327d>c8fc.c758 s327e>c6b0 k327f s3280>4e00 s3281>4e8c
  s3282>4e09 s3283>56db s3284>4e94 s3285>516d s3286>4e03 s3287>516b s3288>4e5d s3289>5341
  s328a>6708 s328b>706b s328c>6c34 s328d>6728 s328e>91d1 s328f>571f s3290>65e5 s3291>682a
  s3292>6709 s3293>793e s3294>540d s3295>7279 s3296>8ca1 s3297>795d s3298>52b4 s3299>79d8
  s329a>7537 s329b>5973 s329c>9069 s329d>512a s329e>5370 s329f>6ce8 s32a0>9805 s32a1>4f11
  s32a2>5199 s32a3>6b63 s32a4>4e0a s32a5>4e2d s32a6>4e0b s32a7>5de6 s32a8>53f3 s32a9>533b
  s32aa>5b97 s32ab>5b66 s32ac>76e3 s32ad>4f01 s32ae>8cc7 s32af>5354 s32b0>591c m32b1>33.36
  m32b2>33.37 m32b3>33.38 m32b4>33.39 m32b5>34.30 m32b6>34.31 m32b7>34.32 m32b8>34.33 m32b9>34.34
  m32ba>34.35 m32bb>34.36 m32bc>34.37 m32bd>34.38 m32be>34.39 m32bf>35.30 m32c0>31.6708
  m32c1>32.6708 m32c2>33.6708 m32c3>34.6708 m32c4>35.6708 m32c5>36.6708 m32c6>37.6708
  m32c7>38.6708 m32c8>39.6708 m32c9>31.30.6708 m32ca>31.31.6708 m32cb>31.32.6708 m32cc>68.67
  m32cd>65.72.67 m32ce>65.76 m32cf>6c.74.64 s32d0>30a2 s32d1>30a4 s32d2>30a6 s32d3>30a8
  s32d4-32d5>30aa s32d6>30ad s32d7>30af s32d8>30b1 s32d9>30b3 s32da>30b5 s32db>30b7 s32dc>30b9
  s32dd>30bb s32de>30bd s32df>30bf s32e0>30c1 s32e1>30c4 s32e2>30c6 s32e3>30c8 s32e4-32e9>30ca
  s32ea>30d2 s32eb>30d5 s32ec>30d8 s32ed>30db s32ee-32f2>30de s32f3>30e4 s32f4>30e6
  s32f5-32fa>30e8 s32fb-32fe>30ef m32ff>4ee4.548c m3300>30a2.30d1.30fc.30c8
  m3301>30a2.30eb.30d5.30a1 m3302>30a2.30f3.30da.30a2 m3303>30a2.30fc.30eb
  m3304>30a4.30cb.30f3.30b0 m3305>30a4.30f3.30c1 m3306>30a6.30a9.30f3
  m3307>30a8.30b9.30af.30fc.30c9 m3308>30a8.30fc.30ab.30fc m3309>30aa.30f3.30b9
  m330a>30aa.30fc.30e0 m330b>30ab.30a4.30ea m330c>30ab.30e9.30c3.30c8 m330d>30ab.30ed.30ea.30fc
  m330e>30ac.30ed.30f3 m330f>30ac.30f3.30de m3310>30ae.30ac m3311>30ae.30cb.30fc
  m3312>30ad.30e5.30ea.30fc m3313>30ae.30eb.30c0.30fc m3314>30ad.30ed
  m3315>30ad.30ed.30b0.30e9.30e0 m3316>30ad.30ed.30e1.30fc.30c8.30eb
  m3317>30ad.30ed.30ef.30c3.30c8 m3318>30b0.30e9.30e0 m3319>30b0.30e9.30e0.30c8.30f3
  m331a>30af.30eb.30bc.30a4.30ed m331b>30af.30ed.30fc.30cd m331c>30b1.30fc.30b9
  m331d>30b3.30eb.30ca m331e>30b3.30fc.30dd m331f>30b5.30a4.30af.30eb
  m3320>30b5.30f3.30c1.30fc.30e0 m3321>30b7.30ea.30f3.30b0 m3322>30bb.30f3.30c1
  m3323>30bb.30f3.30c8 m3324>30c0.30fc.30b9 m3325>30c7.30b7 m3326>30c9.30eb m3327>30c8.30f3
  m3328>30ca.30ce m3329>30ce.30c3.30c8 m332a>30cf.30a4.30c4 m332b>30d1.30fc.30bb.30f3.30c8
  m332c>30d1.30fc.30c4 m332d>30d0.30fc.30ec.30eb m332e>30d4.30a2.30b9.30c8.30eb
  m332f>30d4.30af.30eb m3330>30d4.30b3 m3331>30d3.30eb m3332>30d5.30a1.30e9.30c3.30c9
  m3333>30d5.30a3.30fc.30c8 m3334>30d6.30c3.30b7.30a7.30eb m3335>30d5.30e9.30f3
  m3336>30d8.30af.30bf.30fc.30eb m3337>30da.30bd m3338>30da.30cb.30d2 m3339>30d8.30eb.30c4
  m333a>30da.30f3.30b9 m333b>30da.30fc.30b8 m333c>30d9.30fc.30bf m333d>30dd.30a4.30f3.30c8
  m333e>30dc.30eb.30c8 m333f>30db.30f3 m3340>30dd.30f3.30c9 m3341>30db.30fc.30eb
  m3342>30db.30fc.30f3 m3343>30de.30a4.30af.30ed m3344>30de.30a4.30eb m3345>30de.30c3.30cf
  m3346>30de.30eb.30af m3347>30de.30f3.30b7.30e7.30f3 m3348>30df.30af.30ed.30f3 m3349>30df.30ea
  m334a>30df.30ea.30d0.30fc.30eb m334b>30e1.30ac m334c>30e1.30ac.30c8.30f3
  m334d>30e1.30fc.30c8.30eb m334e>30e4.30fc.30c9 m334f>30e4.30fc.30eb m3350>30e6.30a2.30f3
  m3351>30ea.30c3.30c8.30eb m3352>30ea.30e9 m3353>30eb.30d4.30fc m3354>30eb.30fc.30d6.30eb
  m3355>30ec.30e0 m3356>30ec.30f3.30c8.30b2.30f3 m3357>30ef.30c3.30c8 m3358>30.70b9 m3359>31.70b9
  m335a>32.70b9 m335b>33.70b9 m335c>34.70b9 m335d>35.70b9 m335e>36.70b9 m335f>37.70b9
  m3360>38.70b9 m3361>39.70b9 m3362>31.30.70b9 m3363>31.31.70b9 m3364>31.32.70b9 m3365>31.33.70b9
  m3366>31.34.70b9 m3367>31.35.70b9 m3368>31.36.70b9 m3369>31.37.70b9 m336a>31.38.70b9
  m336b>31.39.70b9 m336c>32.30.70b9 m336d>32.31.70b9 m336e>32.32.70b9 m336f>32.33.70b9
  m3370>32.34.70b9 m3371>68.70.61 m3372>64.61 m3373>61.75 m3374>62.61.72 m3375>6f.76 m3376>70.63
  m3377>64.6d m3378>64.6d.32 m3379>64.6d.33 m337a>69.75 m337b>5e73.6210 m337c>662d.548c
  m337d>5927.6b63 m337e>660e.6cbb m337f>682a.5f0f.4f1a.793e m3380>70.61 m3381>6e.61 m3382>3bc.61
  m3383>6d.61 m3384>6b.61 m3385>6b.62 m3386>6d.62 m3387>67.62 m3388>63.61.6c m3389>6b.63.61.6c
  m338a>70.66 m338b>6e.66 m338c>3bc.66 m338d>3bc.67 m338e>6d.67 m338f>6b.67 m3390>68.7a
  m3391>6b.68.7a m3392>6d.68.7a m3393>67.68.7a m3394>74.68.7a m3395>3bc.6c m3396>6d.6c
  m3397>64.6c m3398>6b.6c m3399>66.6d m339a>6e.6d m339b>3bc.6d m339c>6d.6d m339d>63.6d
  m339e>6b.6d m339f>6d.6d.32 m33a0>63.6d.32 m33a1>6d.32 m33a2>6b.6d.32 m33a3>6d.6d.33
  m33a4>63.6d.33 m33a5>6d.33 m33a6>6b.6d.33 m33a7>6d.2215.73 m33a8>6d.2215.73.32 m33a9>70.61
  m33aa>6b.70.61 m33ab>6d.70.61 m33ac>67.70.61 m33ad>72.61.64 m33ae>72.61.64.2215.73
  m33af>72.61.64.2215.73.32 m33b0>70.73 m33b1>6e.73 m33b2>3bc.73 m33b3>6d.73 m33b4>70.76
  m33b5>6e.76 m33b6>3bc.76 m33b7>6d.76 m33b8>6b.76 m33b9>6d.76 m33ba>70.77 m33bb>6e.77
  m33bc>3bc.77 m33bd>6d.77 m33be>6b.77 m33bf>6d.77 m33c0>6b.3c9 m33c1>6d.3c9 m33c3>62.71
  m33c4>63.63 m33c5>63.64 m33c6>63.2215.6b.67 m33c8>64.62 m33c9>67.79 m33ca>68.61 m33cb>68.70
  m33cc>69.6e m33cd>6b.6b m33ce>6b.6d m33cf>6b.74 m33d0>6c.6d m33d1>6c.6e m33d2>6c.6f.67
  m33d3>6c.78 m33d4>6d.62 m33d5>6d.69.6c m33d6>6d.6f.6c m33d7>70.68 m33d9>70.70.6d m33da>70.72
  m33db>73.72 m33dc>73.76 m33dd>77.62 m33de>76.2215.6d m33df>61.2215.6d m33e0>31.65e5
  m33e1>32.65e5 m33e2>33.65e5 m33e3>34.65e5 m33e4>35.65e5 m33e5>36.65e5 m33e6>37.65e5
  m33e7>38.65e5 m33e8>39.65e5 m33e9>31.30.65e5 m33ea>31.31.65e5 m33eb>31.32.65e5 m33ec>31.33.65e5
  m33ed>31.34.65e5 m33ee>31.35.65e5 m33ef>31.36.65e5 m33f0>31.37.65e5 m33f1>31.38.65e5
  m33f2>31.39.65e5 m33f3>32.30.65e5 m33f4>32.31.65e5 m33f5>32.32.65e5 m33f6>32.33.65e5
  m33f7>32.34.65e5 m33f8>32.35.65e5 m33f9>32.36.65e5 m33fa>32.37.65e5 m33fb>32.38.65e5
  m33fc>32.39.65e5 m33fd>33.30.65e5 m33fe>33.31.65e5 m33ff>67.61.6c"

/-- Ideographs, syllables and compatibility forms, 3400 to FFFF. -/
def ideographs : String :=
  "k3400-a48c ka490-a4c6 ka4d0-a62b pa640-a66d ka66e-a67f pa680-a69b sa69c>44a sa69d>44c
  ka69e-a6f7 ka700-a721 pa722-a72f ka730-a731 pa732-a76f sa770>a76f ka771-a778 pa779-a77c
  sa77d>1d79 pa77e-a787 ka788-a78a sa78b>a78c ka78c sa78d>265 ka78e-a78f pa790-a793 ka794-a795
  pa796-a7a9 sa7aa>266 sa7ab>25c sa7ac>261 sa7ad>26c sa7ae>26a ka7af sa7b0>29e sa7b1>287
  sa7b2>29d sa7b3>ab53 pa7b4-a7c3 sa7c4>a794 sa7c5>282 sa7c6>1d8e pa7c7-a7ca sa7cb>264 pa7cc-a7db
  sa7dc>19b sa7dd>277 sa7f1>73 sa7f2>63 sa7f3>66 sa7f4>71 sa7f5>a7f6 ka7f6-a7f7 sa7f8>127
  sa7f9>153 ka7fa-a82c ka830-a839 ka840-a877 ka880-a8c5 ka8ce-a8d9 ka8e0-a953 ka95f-a97c
  ka980-a9cd ka9cf-a9d9 ka9de-a9fe kaa00-aa36 kaa40-aa4d kaa50-aa59 kaa5c-aac2 kaadb-aaf6
  kab01-ab06 kab09-ab0e kab11-ab16 kab20-ab26 kab28-ab2e kab30-ab5b sab5c>a727 sab5d>ab37
  sab5e>26b sab5f>ab52 kab60-ab68 sab69>28d kab6a-ab6b sab6c>ab4b sab70-abbf>13a0 kabc0-abed
  kabf0-abf9 kac00-d7a3 kd7b0-d7c6 kd7cb-d7fb sf900>8c48 sf901>66f4 sf902>8eca sf903>8cc8
  sf904>6ed1 sf905>4e32 sf906>53e5 sf907>9f9c sf908>9f9c sf909>5951 sf90a>91d1 sf90b>5587
  sf90c>5948 sf90d>61f6 sf90e>7669 sf90f>7f85 sf910>863f sf911>87ba sf912>88f8 sf913>908f
  sf914>6a02 sf915>6d1b sf916>70d9 sf917>73de sf918>843d sf919>916a sf91a>99f1 sf91b>4e82
  sf91c>5375 sf91d>6b04 sf91e>721b sf91f>862d sf920>9e1e sf921>5d50 sf922>6feb sf923>85cd
  sf924>8964 sf925>62c9 sf926>81d8 sf927>881f sf928>5eca sf929>6717 sf92a>6d6a sf92b>72fc
  sf92c>90ce sf92d>4f86 sf92e>51b7 sf92f>52de sf930>64c4 sf931>6ad3 sf932>7210 sf933>76e7
  sf934>8001 sf935>8606 sf936>865c sf937>8def sf938>9732 sf939>9b6f sf93a>9dfa sf93b>788c
  sf93c>797f sf93d>7da0 sf93e>83c9 sf93f>9304 sf940>9e7f sf941>8ad6 sf942>58df sf943>5f04
  sf944>7c60 sf945>807e sf946>7262 sf947>78ca sf948>8cc2 sf949>96f7 sf94a>58d8 sf94b>5c62
  sf94c>6a13 sf94d>6dda sf94e>6f0f sf94f>7d2f sf950>7e37 sf951>964b sf952>52d2 sf953>808b
  sf954>51dc sf955>51cc sf956>7a1c sf957>7dbe sf958>83f1 sf959>9675 sf95a>8b80 sf95b>62cf
  sf95c>6a02 sf95d>8afe sf95e>4e39 sf95f>5be7 sf960>6012 sf961>7387 sf962>7570 sf963>5317
  sf964>78fb sf965>4fbf sf966>5fa9 sf967>4e0d sf968>6ccc sf969>6578 sf96a>7d22 sf96b>53c3
  sf96c>585e sf96d>7701 sf96e>8449 sf96f>8aaa sf970>6bba sf971>8fb0 sf972>6c88 sf973>62fe
  sf974>82e5 sf975>63a0 sf976>7565 sf977>4eae sf978>5169 sf979>51c9 sf97a>6881 sf97b>7ce7
  sf97c>826f sf97d>8ad2 sf97e>91cf sf97f>52f5 sf980>5442 sf981>5973 sf982>5eec sf983>65c5
  sf984>6ffe sf985>792a sf986>95ad sf987>9a6a sf988>9e97 sf989>9ece sf98a>529b sf98b>66c6
  sf98c>6b77 sf98d>8f62 sf98e>5e74 sf98f>6190 sf990>6200 sf991>649a sf992>6f23 sf993>7149
  sf994>7489 sf995>79ca sf996>7df4 sf997>806f sf998>8f26 sf999>84ee sf99a>9023 sf99b>934a
  sf99c>5217 sf99d>52a3 sf99e>54bd sf99f>70c8 sf9a0>88c2 sf9a1>8aaa sf9a2>5ec9 sf9a3>5ff5
  sf9a4>637b sf9a5>6bae sf9a6>7c3e sf9a7>7375 sf9a8>4ee4 sf9a9>56f9 sf9aa>5be7 sf9ab>5dba
  sf9ac>601c sf9ad>73b2 sf9ae>7469 sf9af>7f9a sf9b0>8046 sf9b1>9234 sf9b2>96f6 sf9b3>9748
  sf9b4>9818 sf9b5>4f8b sf9b6>79ae sf9b7>91b4 sf9b8>96b8 sf9b9>60e1 sf9ba>4e86 sf9bb>50da
  sf9bc>5bee sf9bd>5c3f sf9be>6599 sf9bf>6a02 sf9c0>71ce sf9c1>7642 sf9c2>84fc sf9c3>907c
  sf9c4>9f8d sf9c5>6688 sf9c6>962e sf9c7>5289 sf9c8>677b sf9c9>67f3 sf9ca>6d41 sf9cb>6e9c
  sf9cc>7409 sf9cd>7559 sf9ce>786b sf9cf>7d10 sf9d0>985e sf9d1>516d sf9d2>622e sf9d3>9678
  sf9d4>502b sf9d5>5d19 sf9d6>6dea sf9d7>8f2a sf9d8>5f8b sf9d9>6144 sf9da>6817 sf9db>7387
  sf9dc>9686 sf9dd>5229 sf9de>540f sf9df>5c65 sf9e0>6613 sf9e1>674e sf9e2>68a8 sf9e3>6ce5
  sf9e4>7406 sf9e5>75e2 sf9e6>7f79 sf9e7>88cf sf9e8>88e1 sf9e9>91cc sf9ea>96e2 sf9eb>533f
  sf9ec>6eba sf9ed>541d sf9ee>71d0 sf9ef>7498 sf9f0>85fa sf9f1>96a3 sf9f2>9c57 sf9f3>9e9f
  sf9f4>6797 sf9f5>6dcb sf9f6>81e8 sf9f7>7acb sf9f8>7b20 sf9f9>7c92 sf9fa>72c0 sf9fb>7099
  sf9fc>8b58 sf9fd>4ec0 sf9fe>8336 sf9ff>523a sfa00>5207 sfa01>5ea6 sfa02>62d3 sfa03>7cd6
  sfa04>5b85 sfa05>6d1e sfa06>66b4 sfa07>8f3b sfa08>884c sfa09>964d sfa0a>898b sfa0b>5ed3
  sfa0c>5140 sfa0d>55c0 kfa0e-fa0f sfa10>585a kfa11 sfa12>6674 kfa13-fa14 sfa15>51de sfa16>732a
  sfa17>76ca sfa18>793c sfa19>795e sfa1a>7965 sfa1b>798f sfa1c>9756 sfa1d>7cbe sfa1e>7fbd kfa1f
  sfa20>8612 kfa21 sfa22>8af8 kfa23-fa24 sfa25>9038 sfa26>90fd kfa27-fa29 sfa2a>98ef sfa2b>98fc
  sfa2c>9928 sfa2d>9db4 sfa2e>90de sfa2f>96b7 sfa30>4fae sfa31>50e7 sfa32>514d sfa33>52c9
  sfa34>52e4 sfa35>5351 sfa36>559d sfa37>5606 sfa38>5668 sfa39>5840 sfa3a>58a8 sfa3b>5c64
  sfa3c>5c6e sfa3d>6094 sfa3e>6168 sfa3f>618e sfa40>61f2 sfa41>654f sfa42>65e2 sfa43>6691
  sfa44>6885 sfa45>6d77 sfa46>6e1a sfa47>6f22 sfa48>716e sfa49>722b sfa4a>7422 sfa4b>7891
  sfa4c>793e sfa4d>7949 sfa4e>7948 sfa4f>7950 sfa50>7956 sfa51>795d sfa52-fa53>798d sfa54>7a40
  sfa55>7a81 sfa56>7bc0 sfa57>7df4 sfa58>7e09 sfa59>7e41 sfa5a>7f72 sfa5b>8005 sfa5c>81ed
  sfa5d>8279 sfa5e>8279 sfa5f>8457 sfa60>8910 sfa61>8996 sfa62>8b01 sfa63>8b39 sfa64>8cd3
  sfa65>8d08 sfa66>8fb6 sfa67>9038 sfa68>96e3 sfa69>97ff sfa6a>983b sfa6b>6075 sfa6c>242ee
  sfa6d>8218 sfa70>4e26 sfa71>51b5 sfa72>5168 sfa73>4f80 sfa74>5145 sfa75>5180 sfa76>52c7
  sfa77>52fa sfa78>559d sfa79>5555 sfa7a>5599 sfa7b>55e2 sfa7c>585a sfa7d>58b3 sfa7e>5944
  sfa7f>5954 sfa80>5a62 sfa81>5b28 sfa82>5ed2 sfa83>5ed9 sfa84>5f69 sfa85>5fad sfa86>60d8
  sfa87>614e sfa88>6108 sfa89>618e sfa8a>6160 sfa8b>61f2 sfa8c>6234 sfa8d>63c4 sfa8e>641c
  sfa8f>6452 sfa90>6556 sfa91>6674 sfa92>6717 sfa93>671b sfa94>6756 sfa95>6b79 sfa96>6bba
  sfa97>6d41 sfa98>6edb sfa99>6ecb sfa9a>6f22 sfa9b>701e sfa9c>716e sfa9d>77a7 sfa9e>7235
  sfa9f>72af sfaa0>732a sfaa1>7471 sfaa2>7506 sfaa3>753b sfaa4>761d sfaa5>761f sfaa6>76ca
  sfaa7>76db sfaa8>76f4 sfaa9>774a sfaaa>7740 sfaab>78cc sfaac>7ab1 sfaad>7bc0 sfaae>7c7b
  sfaaf>7d5b sfab0>7df4 sfab1>7f3e sfab2>8005 sfab3>8352 sfab4>83ef sfab5>8779 sfab6>8941
  sfab7>8986 sfab8>8996 sfab9>8abf sfaba>8af8 sfabb>8acb sfabc>8b01 sfabd>8afe sfabe>8aed
  sfabf>8b39 sfac0>8b8a sfac1>8d08 sfac2>8f38 sfac3>9072 sfac4>9199 sfac5>9276 sfac6>967c
  sfac7>96e3 sfac8>9756 sfac9>97db sfaca>97ff sfacb>980b sfacc>983b sfacd>9b12 sface>9f9c
  sfacf>2284a sfad0>22844 sfad1>233d5 sfad2>3b9d sfad3>4018 sfad4>4039 sfad5>25249 sfad6>25cd0
  sfad7>27ed3 sfad8>9f43 sfad9>9f8e mfb00>66.66 mfb01>66.69 mfb02>66.6c mfb03>66.66.69
  mfb04>66.66.6c mfb05>73.74 mfb06>73.74 mfb13>574.576 mfb14>574.565 mfb15>574.56b mfb16>57e.576
  mfb17>574.56d mfb1d>5d9.5b4 kfb1e mfb1f>5f2.5b7 sfb20>5e2 sfb21>5d0 sfb22-fb23>5d3
  sfb24-fb26>5db sfb27>5e8 sfb28>5ea sfb29>2b mfb2a>5e9.5c1 mfb2b>5e9.5c2 mfb2c>5e9.5bc.5c1
  mfb2d>5e9.5bc.5c2 mfb2e>5d0.5b7 mfb2f>5d0.5b8 mfb30>5d0.5bc mfb31>5d1.5bc mfb32>5d2.5bc
  mfb33>5d3.5bc mfb34>5d4.5bc mfb35>5d5.5bc mfb36>5d6.5bc mfb38>5d8.5bc mfb39>5d9.5bc
  mfb3a>5da.5bc mfb3b>5db.5bc mfb3c>5dc.5bc mfb3e>5de.5bc mfb40>5e0.5bc mfb41>5e1.5bc
  mfb43>5e3.5bc mfb44>5e4.5bc mfb46>5e6.5bc mfb47>5e7.5bc mfb48>5e8.5bc mfb49>5e9.5bc
  mfb4a>5ea.5bc mfb4b>5d5.5b9 mfb4c>5d1.5bf mfb4d>5db.5bf mfb4e>5e4.5bf mfb4f>5d0.5dc sfb50>671
  sfb51>671 sfb52>67b sfb53>67b sfb54>67b sfb55>67b sfb56>67e sfb57>67e sfb58>67e sfb59>67e
  sfb5a>680 sfb5b>680 sfb5c>680 sfb5d>680 sfb5e>67a sfb5f>67a sfb60>67a sfb61>67a sfb62>67f
  sfb63>67f sfb64>67f sfb65>67f sfb66>679 sfb67>679 sfb68>679 sfb69>679 sfb6a>6a4 sfb6b>6a4
  sfb6c>6a4 sfb6d>6a4 sfb6e>6a6 sfb6f>6a6 sfb70>6a6 sfb71>6a6 sfb72>684 sfb73>684 sfb74>684
  sfb75>684 sfb76>683 sfb77>683 sfb78>683 sfb79>683 sfb7a>686 sfb7b>686 sfb7c>686 sfb7d-fb7e>686
  sfb7f>687 sfb80>687 sfb81>687 sfb82>68d sfb83>68d sfb84>68c sfb85>68c sfb86>68e sfb87>68e
  sfb88>688 sfb89>688 sfb8a>698 sfb8b>698 sfb8c>691 sfb8d>691 sfb8e>6a9 sfb8f>6a9 sfb90>6a9
  sfb91>6a9 sfb92>6af sfb93>6af sfb94>6af sfb95>6af sfb96>6b3 sfb97>6b3 sfb98>6b3 sfb99>6b3
  sfb9a>6b1 sfb9b>6b1 sfb9c>6b1 sfb9d>6b1 sfb9e>6ba sfb9f-fba0>6ba sfba1>6bb sfba2>6bb sfba3>6bb
  sfba4>6c0 sfba5-fba6>6c0 sfba7>6c1 sfba8>6c1 sfba9>6c1 sfbaa>6be sfbab>6be sfbac>6be sfbad>6be
  sfbae>6d2 sfbaf-fbb0>6d2 sfbb1>6d3 kfbb2-fbd2 sfbd3>6ad sfbd4>6ad sfbd5>6ad sfbd6>6ad sfbd7>6c7
  sfbd8>6c7 sfbd9>6c6 sfbda>6c6 sfbdb>6c8 sfbdc>6c8 mfbdd>6c7.674 sfbde>6cb sfbdf>6cb sfbe0>6c5
  sfbe1>6c5 sfbe2>6c9 sfbe3>6c9 sfbe4>6d0 sfbe5>6d0 sfbe6>6d0 sfbe7>6d0 sfbe8>649 sfbe9>649
  mfbea>626.627 mfbeb>626.627 mfbec>626.6d5 mfbed>626.6d5 mfbee>626.648 mfbef>626.648
  mfbf0>626.6c7 mfbf1>626.6c7 mfbf2>626.6c6 mfbf3>626.6c6 mfbf4>626.6c8 mfbf5>626.6c8
  mfbf6>626.6d0 mfbf7>626.6d0 mfbf8>626.6d0 mfbf9>626.649 mfbfa>626.649 mfbfb>626.649 sfbfc>6cc
  sfbfd>6cc sfbfe>6cc sfbff>6cc mfc00>626.62c mfc01>626.62d mfc02>626.645 mfc03>626.649
  mfc04>626.64a mfc05>628.62c mfc06>628.62d mfc07>628.62e mfc08>628.645 mfc09>628.649
  mfc0a>628.64a mfc0b>62a.62c mfc0c>62a.62d mfc0d>62a.62e mfc0e>62a.645 mfc0f>62a.649
  mfc10>62a.64a mfc11>62b.62c mfc12>62b.645 mfc13>62b.649 mfc14>62b.64a mfc15>62c.62d
  mfc16>62c.645 mfc17>62d.62c mfc18>62d.645 mfc19>62e.62c mfc1a>62e.62d mfc1b>62e.645
  mfc1c>633.62c mfc1d>633.62d mfc1e>633.62e mfc1f>633.645 mfc20>635.62d mfc21>635.645
  mfc22>636.62c mfc23>636.62d mfc24>636.62e mfc25>636.645 mfc26>637.62d mfc27>637.645
  mfc28>638.645 mfc29>639.62c mfc2a>639.645 mfc2b>63a.62c mfc2c>63a.645 mfc2d>641.62c
  mfc2e>641.62d mfc2f>641.62e mfc30>641.645 mfc31>641.649 mfc32>641.64a mfc33>642.62d
  mfc34>642.645 mfc35>642.649 mfc36>642.64a mfc37>643.627 mfc38>643.62c mfc39>643.62d
  mfc3a>643.62e mfc3b>643.644 mfc3c>643.645 mfc3d>643.649 mfc3e>643.64a mfc3f>644.62c
  mfc40>644.62d mfc41>644.62e mfc42>644.645 mfc43>644.649 mfc44>644.64a mfc45>645.62c
  mfc46>645.62d mfc47>645.62e mfc48>645.645 mfc49>645.649 mfc4a>645.64a mfc4b>646.62c
  mfc4c>646.62d mfc4d>646.62e mfc4e>646.645 mfc4f>646.649 mfc50>646.64a mfc51>647.62c
  mfc52>647.645 mfc53>647.649 mfc54>647.64a mfc55>64a.62c mfc56>64a.62d mfc57>64a.62e
  mfc58>64a.645 mfc59>64a.649 mfc5a>64a.64a mfc5b>630.670 mfc5c>631.670 mfc5d>649.670
  mfc5e>20.64c.651 mfc5f>20.64d.651 mfc60>20.64e.651 mfc61>20.64f.651 mfc62>20.650.651
  mfc63>20.651.670 mfc64>626.631 mfc65>626.632 mfc66>626.645 mfc67>626.646 mfc68>626.649
  mfc69>626.64a mfc6a>628.631 mfc6b>628.632 mfc6c>628.645 mfc6d>628.646 mfc6e>628.649
  mfc6f>628.64a mfc70>62a.631 mfc71>62a.632 mfc72>62a.645 mfc73>62a.646 mfc74>62a.649
  mfc75>62a.64a mfc76>62b.631 mfc77>62b.632 mfc78>62b.645 mfc79>62b.646 mfc7a>62b.649
  mfc7b>62b.64a mfc7c>641.649 mfc7d>641.64a mfc7e>642.649 mfc7f>642.64a mfc80>643.627
  mfc81>643.644 mfc82>643.645 mfc83>643.649 mfc84>643.64a mfc85>644.645 mfc86>644.649
  mfc87>644.64a mfc88>645.627 mfc89>645.645 mfc8a>646.631 mfc8b>646.632 mfc8c>646.645
  mfc8d>646.646 mfc8e>646.649 mfc8f>646.64a mfc90>649.670 mfc91>64a.631 mfc92>64a.632
  mfc93>64a.645 mfc94>64a.646 mfc95>64a.649 mfc96>64a.64a mfc97>626.62c mfc98>626.62d
  mfc99>626.62e mfc9a>626.645 mfc9b>626.647 mfc9c>628.62c mfc9d>628.62d mfc9e>628.62e
  mfc9f>628.645 mfca0>628.647 mfca1>62a.62c mfca2>62a.62d mfca3>62a.62e mfca4>62a.645
  mfca5>62a.647 mfca6>62b.645 mfca7>62c.62d mfca8>62c.645 mfca9>62d.62c mfcaa>62d.645
  mfcab>62e.62c mfcac>62e.645 mfcad>633.62c mfcae>633.62d mfcaf>633.62e mfcb0>633.645
  mfcb1>635.62d mfcb2>635.62e mfcb3>635.645 mfcb4>636.62c mfcb5>636.62d mfcb6>636.62e
  mfcb7>636.645 mfcb8>637.62d mfcb9>638.645 mfcba>639.62c mfcbb>639.645 mfcbc>63a.62c
  mfcbd>63a.645 mfcbe>641.62c mfcbf>641.62d mfcc0>641.62e mfcc1>641.645 mfcc2>642.62d
  mfcc3>642.645 mfcc4>643.62c mfcc5>643.62d mfcc6>643.62e mfcc7>643.644 mfcc8>643.645
  mfcc9>644.62c mfcca>644.62d mfccb>644.62e mfccc>644.645 mfccd>644.647 mfcce>645.62c
  mfccf>645.62d mfcd0>645.62e mfcd1>645.645 mfcd2>646.62c mfcd3>646.62d mfcd4>646.62e
  mfcd5>646.645 mfcd6>646.647 mfcd7>647.62c mfcd8>647.645 mfcd9>647.670 mfcda>64a.62c
  mfcdb>64a.62d mfcdc>64a.62e mfcdd>64a.645 mfcde>64a.647 mfcdf>626.645 mfce0>626.647
  mfce1>628.645 mfce2>628.647 mfce3>62a.645 mfce4>62a.647 mfce5>62b.645 mfce6>62b.647
  mfce7>633.645 mfce8>633.647 mfce9>634.645 mfcea>634.647 mfceb>643.644 mfcec>643.645
  mfced>644.645 mfcee>646.645 mfcef>646.647 mfcf0>64a.645 mfcf1>64a.647 mfcf2>640.64e.651
  mfcf3>640.64f.651 mfcf4>640.650.651 mfcf5>637.649 mfcf6>637.64a mfcf7>639.649 mfcf8>639.64a
  mfcf9>63a.649 mfcfa>63a.64a mfcfb>633.649 mfcfc>633.64a mfcfd>634.649 mfcfe>634.64a
  mfcff>62d.649 mfd00>62d.64a mfd01>62c.649 mfd02>62c.64a mfd03>62e.649 mfd04>62e.64a
  mfd05>635.649 mfd06>635.64a mfd07>636.649 mfd08>636.64a mfd09>634.62c mfd0a>634.62d
  mfd0b>634.62e mfd0c>634.645 mfd0d>634.631 mfd0e>633.631 mfd0f>635.631 mfd10>636.631
  mfd11>637.649 mfd12>637.64a mfd13>639.649 mfd14>639.64a mfd15>63a.649 mfd16>63a.64a
  mfd17>633.649 mfd18>633.64a mfd19>634.649 mfd1a>634.64a mfd1b>62d.649 mfd1c>62d.64a
  mfd1d>62c.649 mfd1e>62c.64a mfd1f>62e.649 mfd20>62e.64a mfd21>635.649 mfd22>635.64a
  mfd23>636.649 mfd24>636.64a mfd25>634.62c mfd26>634.62d mfd27>634.62e mfd28>634.645
  mfd29>634.631 mfd2a>633.631 mfd2b>635.631 mfd2c>636.631 mfd2d>634.62c mfd2e>634.62d
  mfd2f>634.62e mfd30>634.645 mfd31>633.647 mfd32>634.647 mfd33>637.645 mfd34>633.62c
  mfd35>633.62d mfd36>633.62e mfd37>634.62c mfd38>634.62d mfd39>634.62e mfd3a>637.645
  mfd3b>638.645 mfd3c>627.64b mfd3d>627.64b kfd3e-fd4f mfd50>62a.62c.645 mfd51>62a.62d.62c
  mfd52>62a.62d.62c mfd53>62a.62d.645 mfd54>62a.62e.645 mfd55>62a.645.62c mfd56>62a.645.62d
  mfd57>62a.645.62e mfd58>62c.645.62d mfd59>62c.645.62d mfd5a>62d.645.64a mfd5b>62d.645.649
  mfd5c>633.62d.62c mfd5d>633.62c.62d mfd5e>633.62c.649 mfd5f>633.645.62d mfd60>633.645.62d
  mfd61>633.645.62c mfd62>633.645.645 mfd63>633.645.645 mfd64>635.62d.62d mfd65>635.62d.62d
  mfd66>635.645.645 mfd67>634.62d.645 mfd68>634.62d.645 mfd69>634.62c.64a mfd6a>634.645.62e
  mfd6b>634.645.62e mfd6c>634.645.645 mfd6d>634.645.645 mfd6e>636.62d.649 mfd6f>636.62e.645
  mfd70>636.62e.645 mfd71>637.645.62d mfd72>637.645.62d mfd73>637.645.645 mfd74>637.645.64a
  mfd75>639.62c.645 mfd76>639.645.645 mfd77>639.645.645 mfd78>639.645.649 mfd79>63a.645.645
  mfd7a>63a.645.64a mfd7b>63a.645.649 mfd7c>641.62e.645 mfd7d>641.62e.645 mfd7e>642.645.62d
  mfd7f>642.645.645 mfd80>644.62d.645 mfd81>644.62d.64a mfd82>644.62d.649 mfd83>644.62c.62c
  mfd84>644.62c.62c mfd85>644.62e.645 mfd86>644.62e.645 mfd87>644.645.62d mfd88>644.645.62d
  mfd89>645.62d.62c mfd8a>645.62d.645 mfd8b>645.62d.64a mfd8c>645.62c.62d mfd8d>645.62c.645
  mfd8e>645.62e.62c mfd8f>645.62e.645 kfd90-fd91 mfd92>645.62c.62e mfd93>647.645.62c
  mfd94>647.645.645 mfd95>646.62d.645 mfd96>646.62d.649 mfd97>646.62c.645 mfd98>646.62c.645
  mfd99>646.62c.649 mfd9a>646.645.64a mfd9b>646.645.649 mfd9c>64a.645.645 mfd9d>64a.645.645
  mfd9e>628.62e.64a mfd9f>62a.62c.64a mfda0>62a.62c.649 mfda1>62a.62e.64a mfda2>62a.62e.649
  mfda3>62a.645.64a mfda4>62a.645.649 mfda5>62c.645.64a mfda6>62c.62d.649 mfda7>62c.645.649
  mfda8>633.62e.649 mfda9>635.62d.64a mfdaa>634.62d.64a mfdab>636.62d.64a mfdac>644.62c.64a
  mfdad>644.645.64a mfdae>64a.62d.64a mfdaf>64a.62c.64a mfdb0>64a.645.64a mfdb1>645.645.64a
  mfdb2>642.645.64a mfdb3>646.62d.64a mfdb4>642.645.62d mfdb5>644.62d.645 mfdb6>639.645.64a
  mfdb7>643.645.64a mfdb8>646.62c.62d mfdb9>645.62e.64a mfdba>644.62c.645 mfdbb>643.645.645
  mfdbc>644.62c.645 mfdbd>646.62c.62d mfdbe>62c.62d.64a mfdbf>62d.62c.64a mfdc0>645.62c.64a
  mfdc1>641.645.64a mfdc2>628.62d.64a mfdc3>643.645.645 mfdc4>639.62c.645 mfdc5>635.645.645
  mfdc6>633.62e.64a mfdc7>646.62c.64a kfdc8-fdcf mfdf0>635.644.6d2 mfdf1>642.644.6d2
  mfdf2>627.644.644.647 mfdf3>627.643.628.631 mfdf4>645.62d.645.62f mfdf5>635.644.639.645
  mfdf6>631.633.648.644 mfdf7>639.644.64a.647 mfdf8>648.633.644.645 mfdf9>635.644.649
  mfdfa>635.644.649.20.627.644.644.647.20.639.644.64a.647.20.648.633.644.645
  mfdfb>62c.644.20.62c.644.627.644.647 mfdfc>631.6cc.627.644 kfdfd-fdff ife00-fe0f sfe10>2c
  sfe11>3001 sfe13-fe14>3a sfe15>21 sfe16>3f sfe17-fe18>3016 kfe20-fe2f sfe31>2014 sfe32>2013
  sfe33>5f sfe34>5f sfe35-fe36>28 sfe37>7b sfe38>7d sfe39-fe3a>3014 sfe3b-fe3c>3010
  sfe3d-fe3e>300a sfe3f-fe40>3008 sfe41-fe44>300c kfe45-fe46 sfe47>5b sfe48>5d mfe49>20.305
  mfe4a>20.305 mfe4b>20.305 mfe4c>20.305 sfe4d>5f sfe4e>5f sfe4f>5f sfe50>2c sfe51>3001 sfe54>3b
  sfe55>3a sfe56>3f sfe57>21 sfe58>2014 sfe59-fe5a>28 sfe5b>7b sfe5c>7d sfe5d-fe5e>3014 sfe5f>23
  sfe60>26 sfe61-fe62>2a sfe63>2d sfe64>3c sfe65>3e sfe66>3d sfe68>5c sfe69-fe6a>24 sfe6b>40
  mfe70>20.64b mfe71>640.64b mfe72>20.64c kfe73 mfe74>20.64d mfe76>20.64e mfe77>640.64e
  mfe78>20.64f mfe79>640.64f mfe7a>20.650 mfe7b>640.650 mfe7c>20.651 mfe7d>640.651 mfe7e>20.652
  mfe7f>640.652 sfe80-fe81>621 sfe82-fe83>622 sfe84-fe85>623 sfe86-fe87>624 sfe88-fe89>625
  sfe8a>626 sfe8b>626 sfe8c-fe8d>626 sfe8e-fe8f>627 sfe90>628 sfe91>628 sfe92-fe93>628
  sfe94-fe95>629 sfe96>62a sfe97>62a sfe98-fe99>62a sfe9a>62b sfe9b>62b sfe9c-fe9d>62b sfe9e>62c
  sfe9f>62c sfea0-fea1>62c sfea2>62d sfea3>62d sfea4-fea5>62d sfea6>62e sfea7>62e sfea8-fea9>62e
  sfeaa-feab>62f sfeac-fead>630 sfeae-feaf>631 sfeb0-feb1>632 sfeb2>633 sfeb3>633 sfeb4-feb5>633
  sfeb6>634 sfeb7>634 sfeb8-feb9>634 sfeba>635 sfebb>635 sfebc-febd>635 sfebe>636 sfebf>636
  sfec0-fec1>636 sfec2>637 sfec3>637 sfec4-fec5>637 sfec6>638 sfec7>638 sfec8-fec9>638 sfeca>639
  sfecb>639 sfecc-fecd>639 sfece>63a sfecf>63a sfed0>63a sfed1>641 sfed2>641 sfed3>641
  sfed4-fed5>641 sfed6>642 sfed7>642 sfed8-fed9>642 sfeda>643 sfedb>643 sfedc-fedd>643 sfede>644
  sfedf>644 sfee0-fee1>644 sfee2>645 sfee3>645 sfee4-fee5>645 sfee6>646 sfee7>646 sfee8-fee9>646
  sfeea>647 sfeeb>647 sfeec-feed>647 sfeee-feef>648 sfef0-fef1>649 sfef2>64a sfef3>64a sfef4>64a
  mfef5>644.622 mfef6>644.622 mfef7>644.623 mfef8>644.623 mfef9>644.625 mfefa>644.625
  mfefb>644.627 mfefc>644.627 ifeff sff01-ff20>21 sff21-ff3a>61 sff3b-ff5e>5b sff5f-ff60>2985
  sff61>2e sff62-ff63>300c sff64>3001 sff65>30fb sff66>30f2 sff67>30a1 sff68>30a3 sff69>30a5
  sff6a>30a7 sff6b>30a9 sff6c>30e3 sff6d>30e5 sff6e>30e7 sff6f>30c3 sff70>30fc sff71>30a2
  sff72>30a4 sff73>30a6 sff74>30a8 sff75-ff76>30aa sff77>30ad sff78>30af sff79>30b1 sff7a>30b3
  sff7b>30b5 sff7c>30b7 sff7d>30b9 sff7e>30bb sff7f>30bd sff80>30bf sff81>30c1 sff82>30c4
  sff83>30c6 sff84>30c8 sff85-ff8a>30ca sff8b>30d2 sff8c>30d5 sff8d>30d8 sff8e>30db
  sff8f-ff93>30de sff94>30e4 sff95>30e6 sff96-ff9b>30e8 sff9c>30ef sff9d>30f3 sff9e-ff9f>3099
  iffa0 sffa1-ffa2>1100 sffa3>11aa sffa4>1102 sffa5-ffa6>11ac sffa7-ffa9>1103 sffaa-ffaf>11b0
  sffb0>111a sffb1-ffb3>1106 sffb4>1121 sffb5-ffbe>1109 sffc2-ffc7>1161 sffca-ffcf>1167
  sffd2-ffd7>116d sffda-ffdc>1173 sffe0-ffe1>a2 sffe2>ac mffe3>20.304 sffe4>a6 sffe5>a5
  sffe6>20a9 sffe8>2502 sffe9-ffec>2190 sffed>25a0 sffee>25cb"

/-- The scripts and symbols from 10000 to 1FFFF. -/
def supplement : String :=
  "k10000-1000b k1000d-10026 k10028-1003a k1003c-1003d k1003f-1004d k10050-1005d k10080-100fa
  k10100-10102 k10107-10133 k10137-1018e k10190-1019c k101a0 k101d0-101fd k10280-1029c
  k102a0-102d0 k102e0-102fb k10300-10323 k1032d-1034a k10350-1037a k10380-1039d k1039f-103c3
  k103c8-103d5 s10400-10427>10428 k10428-1049d k104a0-104a9 s104b0-104d3>104d8 k104d8-104fb
  k10500-10527 k10530-10563 k1056f s10570-1057a>10597 s1057c-1058a>105a3 s1058c-10592>105b3
  s10594-10595>105bb k10597-105a1 k105a3-105b1 k105b3-105b9 k105bb-105bc k105c0-105f3
  k10600-10736 k10740-10755 k10760-10767 k10780 s10781-10782>2d0 s10783>e6 s10784>299 s10785>253
  s10787>2a3 s10788>ab66 s10789>2a5 s1078a>2a4 s1078b-1078c>256 s1078d>1d91 s1078e>258 s1078f>25e
  s10790>2a9 s10791>264 s10792>262 s10793>260 s10794>29b s10795>127 s10796>29c s10797>267
  s10798>284 s10799-1079a>2aa s1079b>26c s1079c>1df04 s1079d>a78e s1079e>26e s1079f>1df05
  s107a0>28e s107a1>1df06 s107a2>f8 s107a3-107a4>276 s107a5>71 s107a6>27a s107a7>1df08
  s107a8-107a9>27d s107aa>280 s107ab>2a8 s107ac>2a6 s107ad>ab67 s107ae>2a7 s107af>288 s107b0>2c71
  s107b2>28f s107b3-107b4>2a1 s107b5>298 s107b6-107b8>1c0 s107b9>1df0a s107ba>1df1e s107bb>287
  k10800-10805 k10808 k1080a-10835 k10837-10838 k1083c k1083f-10855 k10857-1089e k108a7-108af
  k108e0-108f2 k108f4-108f5 k108fb-1091b k1091f-10939 k1093f-10959 k10980-109b7 k109bc-109cf
  k109d2-10a03 k10a05-10a06 k10a0c-10a13 k10a15-10a17 k10a19-10a35 k10a38-10a3a k10a3f-10a48
  k10a50-10a58 k10a60-10a9f k10ac0-10ae6 k10aeb-10af6 k10b00-10b35 k10b39-10b55 k10b58-10b72
  k10b78-10b91 k10b99-10b9c k10ba9-10baf k10c00-10c48 s10c80-10cb2>10cc0 k10cc0-10cf2
  k10cfa-10d27 k10d30-10d39 k10d40-10d4f s10d50-10d65>10d70 k10d69-10d85 k10d8e-10d8f
  k10e60-10e7e k10e80-10ea9 k10eab-10ead k10eb0-10eb1 k10ec2-10ec7 k10ec9 k10ed0-10ed9 k10ed9
  k10efa-10f27 k10f30-10f59 k10f70-10f89 k10fb0-10fcb k10fe0-10ff6 k11000-1104d k11052-11075
  k1107f-110bc k110be-110c2 k110d0-110e8 k110f0-110f9 k11100-11134 k11136-11147 k11150-11176
  k11180-111df k111e1-111f4 k11200-11211 k11213-11241 k11280-11286 k11288 k1128a-1128d
  k1128f-1129d k1129f-112a9 k112b0-112ea k112f0-112f9 k11300-11303 k11305-1130c k1130f-11310
  k11313-11328 k1132a-11330 k11332-11333 k11335-11339 k1133b-11344 k11347-11348 k1134b-1134d
  k11350 k11357 k1135d-11363 k11366-1136c k11370-11374 k11380-11389 k1138b k1138e k11390-113b5
  k113b7-113c0 k113c2 k113c5 k113c7-113ca k113cc-113d5 k113d7-113d8 k113e1-113e2 k11400-1145b
  k1145d-11461 k11480-114c7 k114d0-114d9 k11580-115b5 k115b8-115dd k11600-11644 k11650-11659
  k11660-1166c k11680-116b9 k116c0-116c9 k116d0-116e3 k11700-1171a k1171d-1172b k11730-11746
  k11800-1183b s118a0-118bf>118c0 k118c0-118f2 k118ff-11906 k11909 k1190c-11913 k11915-11916
  k11918-11935 k11937-11938 k1193b-11946 k11950-11959 k119a0-119a7 k119aa-119d7 k119da-119e4
  k11a00-11a47 k11a50-11aa2 k11ab0-11af8 k11b00-11b09 k11b60-11b67 k11bc0-11be1 k11bf0-11bf9
  k11c00-11c08 k11c0a-11c36 k11c38-11c45 k11c50-11c6c k11c70-11c8f k11c92-11ca7 k11ca9-11cb6
  k11d00-11d06 k11d08-11d09 k11d0b-11d36 k11d3a k11d3c-11d3d k11d3f-11d47 k11d50-11d59
  k11d60-11d65 k11d67-11d68 k11d6a-11d8e k11d90-11d91 k11d93-11d98 k11da0-11da9 k11db0-11ddb
  k11de0-11de9 k11ee0-11ef8 k11f00-11f10 k11f12-11f3a k11f3e-11f5a k11fb0 k11fc0-11ff1
  k11fff-12399 k12400-1246e k12470-12474 k12480-12543 k12550-12686 k12f90-12ff2 k13000-1342f
  k13440-13455 k13460-143fa k14400-14646 k16100-16139 k16800-16a38 k16a40-16a5e k16a60-16a69
  k16a6e-16abe k16ac0-16ac9 k16ad0-16aed k16af0-16af5 k16b00-16b45 k16b50-16b59 k16b5b-16b61
  k16b63-16b77 k16b7d-16b8f k16d40-16d79 s16e40-16e5f>16e60 k16e60-16e9a s16ea0-16eb8>16ebb
  k16ebb-16ed3 k16f00-16f4a k16f4f-16f87 k16f8f-16f9f k16fe0-16fe4 k16ff0-16ff6 k17000-18cd5
  k18cff-18d1e k18d80-18df2 k1aff0-1aff3 k1aff5-1affb k1affd-1affe k1b000-1b122 k1b132
  k1b150-1b152 k1b155 k1b164-1b167 k1b170-1b2fb k1bc00-1bc6a k1bc70-1bc7c k1bc80-1bc88
  k1bc90-1bc99 k1bc9c-1bc9f i1bca0-1bca3 k1cc00-1ccd5 s1ccd6-1ccef>61 s1ccf0-1ccf9>30
  k1ccfa-1ccfc k1cd00-1ceb3 k1ceba-1ced0 k1cee0-1cef0 k1cf00-1cf2d k1cf30-1cf46 k1cf50-1cfc3
  k1d000-1d0f5 k1d100-1d126 k1d129-1d15d m1d15e>1d157.1d165 m1d15f>1d158.1d165
  m1d160>1d158.1d165.1d16e m1d161>1d158.1d165.1d16f m1d162>1d158.1d165.1d170
  m1d163>1d158.1d165.1d171 m1d164>1d158.1d165.1d172 k1d165-1d172 i1d173-1d17a k1d17b-1d1ba
  m1d1bb>1d1b9.1d165 m1d1bc>1d1ba.1d165 m1d1bd>1d1b9.1d165.1d16e m1d1be>1d1ba.1d165.1d16e
  m1d1bf>1d1b9.1d165.1d16f m1d1c0>1d1ba.1d165.1d16f k1d1c1-1d1ea k1d200-1d245 k1d2c0-1d2d3
  k1d2e0-1d2f3 k1d300-1d356 k1d360-1d378 s1d400-1d419>61 s1d41a-1d433>61 s1d434-1d44d>61
  s1d44e-1d454>61 s1d456-1d467>69 s1d468-1d481>61 s1d482-1d49b>61 s1d49c>61 s1d49e-1d49f>63
  s1d4a2>67 s1d4a5-1d4a6>6a s1d4a9-1d4ac>6e s1d4ae-1d4b5>73 s1d4b6-1d4b9>61 s1d4bb>66
  s1d4bd-1d4c3>68 s1d4c5-1d4cf>70 s1d4d0-1d4e9>61 s1d4ea-1d503>61 s1d504-1d505>61 s1d507-1d50a>64
  s1d50d-1d514>6a s1d516-1d51c>73 s1d51e-1d537>61 s1d538-1d539>61 s1d53b-1d53e>64 s1d540-1d544>69
  s1d546>6f s1d54a-1d550>73 s1d552-1d56b>61 s1d56c-1d585>61 s1d586-1d59f>61 s1d5a0-1d5b9>61
  s1d5ba-1d5d3>61 s1d5d4-1d5ed>61 s1d5ee-1d607>61 s1d608-1d621>61 s1d622-1d63b>61 s1d63c-1d655>61
  s1d656-1d66f>61 s1d670-1d689>61 s1d68a-1d6a3>61 s1d6a4>131 s1d6a5>237 s1d6a8-1d6b8>3b1
  s1d6b9>3b8 s1d6ba-1d6c0>3c3 s1d6c1>2207 s1d6c2-1d6d2>3b1 s1d6d3>3c3 s1d6d4-1d6da>3c3
  s1d6db>2202 s1d6dc>3b5 s1d6dd>3b8 s1d6de>3ba s1d6df>3c6 s1d6e0>3c1 s1d6e1>3c0 s1d6e2-1d6f2>3b1
  s1d6f3>3b8 s1d6f4-1d6fa>3c3 s1d6fb>2207 s1d6fc-1d70c>3b1 s1d70d>3c3 s1d70e-1d714>3c3
  s1d715>2202 s1d716>3b5 s1d717>3b8 s1d718>3ba s1d719>3c6 s1d71a>3c1 s1d71b>3c0 s1d71c-1d72c>3b1
  s1d72d>3b8 s1d72e-1d734>3c3 s1d735>2207 s1d736-1d746>3b1 s1d747>3c3 s1d748-1d74e>3c3
  s1d74f>2202 s1d750>3b5 s1d751>3b8 s1d752>3ba s1d753>3c6 s1d754>3c1 s1d755>3c0 s1d756-1d766>3b1
  s1d767>3b8 s1d768-1d76e>3c3 s1d76f>2207 s1d770-1d780>3b1 s1d781>3c3 s1d782-1d788>3c3
  s1d789>2202 s1d78a>3b5 s1d78b>3b8 s1d78c>3ba s1d78d>3c6 s1d78e>3c1 s1d78f>3c0 s1d790-1d7a0>3b1
  s1d7a1>3b8 s1d7a2-1d7a8>3c3 s1d7a9>2207 s1d7aa-1d7ba>3b1 s1d7bb>3c3 s1d7bc-1d7c2>3c3
  s1d7c3>2202 s1d7c4>3b5 s1d7c5>3b8 s1d7c6>3ba s1d7c7>3c6 s1d7c8>3c1 s1d7c9>3c0 s1d7ca>3dd
  s1d7cb>3dd s1d7ce-1d7d7>30 s1d7d8-1d7e1>30 s1d7e2-1d7eb>30 s1d7ec-1d7f5>30 s1d7f6-1d7ff>30
  k1d800-1da8b k1da9b-1da9f k1daa1-1daaf k1df00-1df1e k1df25-1df2a k1e000-1e006 k1e008-1e018
  k1e01b-1e021 k1e023-1e024 k1e026-1e02a s1e030-1e038>430 s1e039-1e03b>43a s1e03c-1e046>43e
  s1e047>44b s1e048-1e049>44d s1e04a>a689 s1e04b>4d9 s1e04c>456 s1e04d>458 s1e04e>4e9 s1e04f>4af
  s1e050>4cf s1e051-1e059>430 s1e05a-1e05b>43a s1e05c-1e05d>43e s1e05e>441 s1e05f-1e064>443
  s1e065-1e066>44a s1e067>491 s1e068>456 s1e069>455 s1e06a>45f s1e06b>4ab s1e06c>a651 s1e06d>4b1
  k1e08f k1e100-1e12c k1e130-1e13d k1e140-1e149 k1e14e-1e14f k1e290-1e2ae k1e2c0-1e2f9 k1e2ff
  k1e4d0-1e4f9 k1e5d0-1e5fa k1e5ff k1e6c0-1e6de k1e6e0-1e6f5 k1e6fe-1e6ff k1e7e0-1e7e6
  k1e7e8-1e7eb k1e7ed-1e7ee k1e7f0-1e7fe k1e800-1e8c4 k1e8c7-1e8d6 s1e900-1e921>1e922
  k1e922-1e94b k1e950-1e959 k1e95e-1e95f k1ec71-1ecb4 k1ed01-1ed3d s1ee00-1ee01>627 s1ee02>62c
  s1ee03>62f s1ee05>648 s1ee06>632 s1ee07>62d s1ee08>637 s1ee09>64a s1ee0a-1ee0d>643 s1ee0e>633
  s1ee0f>639 s1ee10>641 s1ee11>635 s1ee12>642 s1ee13>631 s1ee14>634 s1ee15-1ee16>62a s1ee17>62e
  s1ee18>630 s1ee19>636 s1ee1a>638 s1ee1b>63a s1ee1c>66e s1ee1d>6ba s1ee1e>6a1 s1ee1f>66f
  s1ee21>628 s1ee22>62c s1ee24>647 s1ee27>62d s1ee29>64a s1ee2a-1ee2d>643 s1ee2e>633 s1ee2f>639
  s1ee30>641 s1ee31>635 s1ee32>642 s1ee34>634 s1ee35-1ee36>62a s1ee37>62e s1ee39>636 s1ee3b>63a
  s1ee42>62c s1ee47>62d s1ee49>64a s1ee4b>644 s1ee4d>646 s1ee4e>633 s1ee4f>639 s1ee51>635
  s1ee52>642 s1ee54>634 s1ee57>62e s1ee59>636 s1ee5b>63a s1ee5d>6ba s1ee5f>66f s1ee61>628
  s1ee62>62c s1ee64>647 s1ee67>62d s1ee68>637 s1ee69>64a s1ee6a>643 s1ee6c-1ee6d>645 s1ee6e>633
  s1ee6f>639 s1ee70>641 s1ee71>635 s1ee72>642 s1ee74>634 s1ee75-1ee76>62a s1ee77>62e s1ee79>636
  s1ee7a>638 s1ee7b>63a s1ee7c>66e s1ee7e>6a1 s1ee80-1ee81>627 s1ee82>62c s1ee83>62f
  s1ee84-1ee85>647 s1ee86>632 s1ee87>62d s1ee88>637 s1ee89>64a s1ee8b-1ee8d>644 s1ee8e>633
  s1ee8f>639 s1ee90>641 s1ee91>635 s1ee92>642 s1ee93>631 s1ee94>634 s1ee95-1ee96>62a s1ee97>62e
  s1ee98>630 s1ee99>636 s1ee9a>638 s1ee9b>63a s1eea1>628 s1eea2>62c s1eea3>62f s1eea5>648
  s1eea6>632 s1eea7>62d s1eea8>637 s1eea9>64a s1eeab-1eead>644 s1eeae>633 s1eeaf>639 s1eeb0>641
  s1eeb1>635 s1eeb2>642 s1eeb3>631 s1eeb4>634 s1eeb5-1eeb6>62a s1eeb7>62e s1eeb8>630 s1eeb9>636
  s1eeba>638 s1eebb>63a k1eef0-1eef1 k1f000-1f02b k1f030-1f093 k1f0a0-1f0ae k1f0b1-1f0bf
  k1f0c1-1f0cf k1f0d1-1f0f5 m1f101>30.2c m1f102>31.2c m1f103>32.2c m1f104>33.2c m1f105>34.2c
  m1f106>35.2c m1f107>36.2c m1f108>37.2c m1f109>38.2c m1f10a>39.2c k1f10b-1f10f m1f110>28.61.29
  m1f111>28.62.29 m1f112>28.63.29 m1f113>28.64.29 m1f114>28.65.29 m1f115>28.66.29 m1f116>28.67.29
  m1f117>28.68.29 m1f118>28.69.29 m1f119>28.6a.29 m1f11a>28.6b.29 m1f11b>28.6c.29 m1f11c>28.6d.29
  m1f11d>28.6e.29 m1f11e>28.6f.29 m1f11f>28.70.29 m1f120>28.71.29 m1f121>28.72.29 m1f122>28.73.29
  m1f123>28.74.29 m1f124>28.75.29 m1f125>28.76.29 m1f126>28.77.29 m1f127>28.78.29 m1f128>28.79.29
  m1f129>28.7a.29 m1f12a>3014.73.3015 s1f12b>63 s1f12c>72 m1f12d>63.64 m1f12e>77.7a k1f12f
  s1f130-1f149>61 m1f14a>68.76 m1f14b>6d.76 m1f14c>73.64 m1f14d>73.73 m1f14e>70.70.76
  m1f14f>77.63 k1f150-1f169 m1f16a>6d.63 m1f16b>6d.64 m1f16c>6d.72 k1f16d-1f18f m1f190>64.6a
  k1f191-1f1ad k1f1e6-1f1ff m1f200>307b.304b m1f201>30b3.30b3 s1f202>30b5 s1f210>624b s1f211>5b57
  s1f212>53cc s1f213>30c7 s1f214>4e8c s1f215>591a s1f216>89e3 s1f217>5929 s1f218>4ea4 s1f219>6620
  s1f21a>7121 s1f21b>6599 s1f21c>524d s1f21d>5f8c s1f21e>518d s1f21f>65b0 s1f220>521d s1f221>7d42
  s1f222>751f s1f223>8ca9 s1f224>58f0 s1f225>5439 s1f226>6f14 s1f227>6295 s1f228>6355 s1f229>4e00
  s1f22a>4e09 s1f22b>904a s1f22c>5de6 s1f22d>4e2d s1f22e>53f3 s1f22f>6307 s1f230>8d70 s1f231>6253
  s1f232>7981 s1f233>7a7a s1f234>5408 s1f235>6e80 s1f236>6709 s1f237>6708 s1f238>7533 s1f239>5272
  s1f23a>55b6 s1f23b>914d m1f240>3014.672c.3015 m1f241>3014.4e09.3015 m1f242>3014.4e8c.3015
  m1f243>3014.5b89.3015 m1f244>3014.70b9.3015 m1f245>3014.6253.3015 m1f246>3014.76d7.3015
  m1f247>3014.52dd.3015 m1f248>3014.6557.3015 s1f250>5f97 s1f251>53ef k1f260-1f265 k1f300-1f6d8
  k1f6dc-1f6ec k1f6f0-1f6fc k1f700-1f7d9 k1f7e0-1f7eb k1f7f0 k1f800-1f80b k1f810-1f847
  k1f850-1f859 k1f860-1f887 k1f890-1f8ad k1f8b0-1f8bb k1f8c0-1f8c1 k1f8d0-1f8d8 k1f900-1fa57
  k1fa60-1fa6d k1fa70-1fa7c k1fa80-1fa8a k1fa8e-1fac6 k1fac8 k1facd-1fadc k1fadf-1faea
  k1faef-1faf8 k1fb00-1fb92 k1fb94-1fbef s1fbf0-1fbf9>30 k1fbfa"

/-- The ideographs from 20000 on, and the selectors. -/
def extension : String :=
  "k20000-2a6df k2a700-2b81d k2b820-2cead k2ceb0-2ebe0 k2ebf0-2ee5d s2f800>4e3d s2f801>4e38
  s2f802>4e41 s2f803>20122 s2f804>4f60 s2f805>4fae s2f806>4fbb s2f807>5002 s2f808>507a
  s2f809>5099 s2f80a>50e7 s2f80b>50cf s2f80c>349e s2f80d>2063a s2f80e>514d s2f80f>5154
  s2f810>5164 s2f811>5177 s2f812>2051c s2f813>34b9 s2f814>5167 s2f815>518d s2f816>2054b
  s2f817>5197 s2f818>51a4 s2f819>4ecc s2f81a>51ac s2f81b>51b5 s2f81c>291df s2f81d>51f5
  s2f81e>5203 s2f81f>34df s2f820>523b s2f821>5246 s2f822>5272 s2f823>5277 s2f824>3515 s2f825>52c7
  s2f826>52c9 s2f827>52e4 s2f828>52fa s2f829-2f82a>5305 s2f82b>5317 s2f82c>5349 s2f82d>5351
  s2f82e>535a s2f82f>5373 s2f830>537d s2f831>537f s2f832>537f s2f833>537f s2f834>20a2c
  s2f835>7070 s2f836>53ca s2f837>53df s2f838>20b63 s2f839>53eb s2f83a>53f1 s2f83b>5406
  s2f83c>549e s2f83d>5438 s2f83e>5448 s2f83f>5468 s2f840>54a2 s2f841>54f6 s2f842>5510 s2f843>5553
  s2f844>5563 s2f845>5584 s2f846>5584 s2f847>5599 s2f848>55ab s2f849>55b3 s2f84a>55c2 s2f84b>5716
  s2f84c>5606 s2f84d>5717 s2f84e>5651 s2f84f>5674 s2f850>5207 s2f851>58ee s2f852>57ce s2f853>57f4
  s2f854>580d s2f855>578b s2f856>5832 s2f857>5831 s2f858>58ac s2f859>214e4 s2f85a>58f2
  s2f85b>58f7 s2f85c>5906 s2f85d>591a s2f85e>5922 s2f85f>5962 s2f860>216a8 s2f861>216ea
  s2f862>59ec s2f863>5a1b s2f864>5a27 s2f865>59d8 s2f866>5a66 s2f867>36ee s2f868>36fc s2f869>5b08
  s2f86a>5b3e s2f86b>5b3e s2f86c>219c8 s2f86d>5bc3 s2f86e>5bd8 s2f86f>5be7 s2f870>5bf3
  s2f871>21b18 s2f872>5bff s2f873>5c06 s2f874>5f53 s2f875>5c22 s2f876>3781 s2f877>5c60
  s2f878>5c6e s2f879>5cc0 s2f87a>5c8d s2f87b>21de4 s2f87c>5d43 s2f87d>21de6 s2f87e>5d6e
  s2f87f>5d6b s2f880>5d7c s2f881-2f882>5de1 s2f883>382f s2f884>5dfd s2f885>5e28 s2f886>5e3d
  s2f887>5e69 s2f888>3862 s2f889>22183 s2f88a>387c s2f88b>5eb0 s2f88c>5eb3 s2f88d>5eb6
  s2f88e>5eca s2f88f>2a392 s2f890>5efe s2f891>22331 s2f892>22331 s2f893>8201 s2f894>5f22
  s2f895>5f22 s2f896>38c7 s2f897>232b8 s2f898>261da s2f899>5f62 s2f89a>5f6b s2f89b>38e3
  s2f89c>5f9a s2f89d>5fcd s2f89e>5fd7 s2f89f>5ff9 s2f8a0>6081 s2f8a1>393a s2f8a2>391c s2f8a3>6094
  s2f8a4>226d4 s2f8a5>60c7 s2f8a6>6148 s2f8a7>614c s2f8a8>614e s2f8a9>614c s2f8aa>617a
  s2f8ab>618e s2f8ac>61b2 s2f8ad>61a4 s2f8ae>61af s2f8af>61de s2f8b0>61f2 s2f8b1>61f6 s2f8b2>6210
  s2f8b3>621b s2f8b4>625d s2f8b5>62b1 s2f8b6>62d4 s2f8b7>6350 s2f8b8>22b0c s2f8b9>633d
  s2f8ba>62fc s2f8bb>6368 s2f8bc>6383 s2f8bd>63e4 s2f8be>22bf1 s2f8bf>6422 s2f8c0>63c5
  s2f8c1>63a9 s2f8c2>3a2e s2f8c3>6469 s2f8c4>647e s2f8c5>649d s2f8c6>6477 s2f8c7>3a6c s2f8c8>654f
  s2f8c9>656c s2f8ca>2300a s2f8cb>65e3 s2f8cc>66f8 s2f8cd>6649 s2f8ce>3b19 s2f8cf>6691
  s2f8d0>3b08 s2f8d1>3ae4 s2f8d2>5192 s2f8d3>5195 s2f8d4>6700 s2f8d5>669c s2f8d6>80ad s2f8d7>43d9
  s2f8d8>6717 s2f8d9>671b s2f8da>6721 s2f8db>675e s2f8dc>6753 s2f8dd>233c3 s2f8de>3b49
  s2f8df>67fa s2f8e0>6785 s2f8e1>6852 s2f8e2>6885 s2f8e3>2346d s2f8e4>688e s2f8e5>681f
  s2f8e6>6914 s2f8e7>3b9d s2f8e8>6942 s2f8e9>69a3 s2f8ea>69ea s2f8eb>6aa8 s2f8ec>236a3
  s2f8ed>6adb s2f8ee>3c18 s2f8ef>6b21 s2f8f0>238a7 s2f8f1>6b54 s2f8f2>3c4e s2f8f3>6b72
  s2f8f4>6b9f s2f8f5-2f8f6>6bba s2f8f7>23a8d s2f8f8>21d0b s2f8f9>23afa s2f8fa>6c4e s2f8fb>23cbc
  s2f8fc>6cbf s2f8fd>6ccd s2f8fe>6c67 s2f8ff>6d16 s2f900>6d3e s2f901>6d77 s2f902>6d41 s2f903>6d69
  s2f904>6d78 s2f905>6d85 s2f906>23d1e s2f907>6d34 s2f908>6e2f s2f909>6e6e s2f90a>3d33
  s2f90b>6ecb s2f90c>6ec7 s2f90d>23ed1 s2f90e>6df9 s2f90f>6f6e s2f910>23f5e s2f911>23f8e
  s2f912>6fc6 s2f913>7039 s2f914>701e s2f915>701b s2f916>3d96 s2f917>704a s2f918>707d s2f919>7077
  s2f91a>70ad s2f91b>20525 s2f91c>7145 s2f91d>24263 s2f91e>719c s2f91f>243ab s2f920>7228
  s2f921>7235 s2f922>7250 s2f923>24608 s2f924>7280 s2f925>7295 s2f926>24735 s2f927>24814
  s2f928>737a s2f929>738b s2f92a>3eac s2f92b>73a5 s2f92c>3eb8 s2f92d>3eb8 s2f92e>7447 s2f92f>745c
  s2f930>7471 s2f931>7485 s2f932>74ca s2f933>3f1b s2f934>7524 s2f935>24c36 s2f936>753e
  s2f937>24c92 s2f938>7570 s2f939>2219f s2f93a>7610 s2f93b>24fa1 s2f93c>24fb8 s2f93d>25044
  s2f93e>3ffc s2f93f>4008 s2f940>76f4 s2f941>250f3 s2f942>250f2 s2f943>25119 s2f944>25133
  s2f945-2f946>771e s2f947>771f s2f948>774a s2f949>4039 s2f94a>778b s2f94b>4046 s2f94c>4096
  s2f94d>2541d s2f94e>784e s2f94f>788c s2f950>78cc s2f951>40e3 s2f952>25626 s2f953>7956
  s2f954>2569a s2f955>256c5 s2f956>798f s2f957>79eb s2f958>412f s2f959>7a40 s2f95a>7a4a
  s2f95b>7a4f s2f95c>2597c s2f95d>25aa7 s2f95e>25aa7 s2f95f>7aee s2f960>4202 s2f961>25bab
  s2f962>7bc6 s2f963>7bc9 s2f964>4227 s2f965>25c80 s2f966>7cd2 s2f967>42a0 s2f968>7ce8
  s2f969>7ce3 s2f96a>7d00 s2f96b>25f86 s2f96c>7d63 s2f96d>4301 s2f96e>7dc7 s2f96f>7e02
  s2f970>7e45 s2f971>4334 s2f972>26228 s2f973>26247 s2f974>4359 s2f975>262d9 s2f976>7f7a
  s2f977>2633e s2f978>7f95 s2f979>7ffa s2f97a>8005 s2f97b>264da s2f97c>26523 s2f97d>8060
  s2f97e>265a8 s2f97f>8070 s2f980>2335f s2f981>43d5 s2f982>80b2 s2f983>8103 s2f984>440b
  s2f985>813e s2f986>5ab5 s2f987>267a7 s2f988>267b5 s2f989>23393 s2f98a>2339c s2f98b>8201
  s2f98c>8204 s2f98d>8f9e s2f98e>446b s2f98f>8291 s2f990>828b s2f991>829d s2f992>52b3 s2f993>82b1
  s2f994>82b3 s2f995>82bd s2f996>82e6 s2f997>26b3c s2f998>82e5 s2f999>831d s2f99a>8363
  s2f99b>83ad s2f99c>8323 s2f99d>83bd s2f99e>83e7 s2f99f>8457 s2f9a0>8353 s2f9a1>83ca s2f9a2>83cc
  s2f9a3>83dc s2f9a4>26c36 s2f9a5>26d6b s2f9a6>26cd5 s2f9a7>452b s2f9a8>84f1 s2f9a9>84f3
  s2f9aa>8516 s2f9ab>273ca s2f9ac>8564 s2f9ad>26f2c s2f9ae>455d s2f9af>4561 s2f9b0>26fb1
  s2f9b1>270d2 s2f9b2>456b s2f9b3>8650 s2f9b4>865c s2f9b5>8667 s2f9b6>8669 s2f9b7>86a9
  s2f9b8>8688 s2f9b9>870e s2f9ba>86e2 s2f9bb>8779 s2f9bc>8728 s2f9bd>876b s2f9be>8786 s2f9bf>45d7
  s2f9c0>87e1 s2f9c1>8801 s2f9c2>45f9 s2f9c3>8860 s2f9c4>8863 s2f9c5>27667 s2f9c6>88d7
  s2f9c7>88de s2f9c8>4635 s2f9c9>88fa s2f9ca>34bb s2f9cb>278ae s2f9cc>27966 s2f9cd>46be
  s2f9ce>46c7 s2f9cf>8aa0 s2f9d0>8aed s2f9d1>8b8a s2f9d2>8c55 s2f9d3>27ca8 s2f9d4>8cab
  s2f9d5>8cc1 s2f9d6>8d1b s2f9d7>8d77 s2f9d8>27f2f s2f9d9>20804 s2f9da>8dcb s2f9db>8dbc
  s2f9dc>8df0 s2f9dd>208de s2f9de>8ed4 s2f9df>8f38 s2f9e0>285d2 s2f9e1>285ed s2f9e2>9094
  s2f9e3>90f1 s2f9e4>9111 s2f9e5>2872e s2f9e6>911b s2f9e7>9238 s2f9e8-2f9e9>92d7 s2f9ea>927c
  s2f9eb>93f9 s2f9ec>9415 s2f9ed>28bfa s2f9ee>958b s2f9ef>4995 s2f9f0>95b7 s2f9f1>28d77
  s2f9f2>49e6 s2f9f3>96c3 s2f9f4>5db2 s2f9f5>9723 s2f9f6>29145 s2f9f7>2921a s2f9f8>4a6e
  s2f9f9>4a76 s2f9fa>97e0 s2f9fb>2940a s2f9fc>4ab2 s2f9fd>29496 s2f9fe>980b s2f9ff>980b
  s2fa00>9829 s2fa01>295b6 s2fa02>98e2 s2fa03>4b33 s2fa04>9929 s2fa05>99a7 s2fa06>99c2
  s2fa07>99fe s2fa08>4bce s2fa09>29b30 s2fa0a>9b12 s2fa0b>9c40 s2fa0c>9cfd s2fa0d>4cce
  s2fa0e>4ced s2fa0f>9d67 s2fa10>2a0ce s2fa11>4cf8 s2fa12>2a105 s2fa13>2a20e s2fa14>2a291
  s2fa15>9ebb s2fa16>4d56 s2fa17>9ef9 s2fa18>9efe s2fa19>9f05 s2fa1a>9f0f s2fa1b>9f16 s2fa1c>9f3b
  s2fa1d>2a600 k30000-3134a k31350-33479 k3d000-3fc3f ie0100-e01ef"

end TrafficFeed.Idn.Table
