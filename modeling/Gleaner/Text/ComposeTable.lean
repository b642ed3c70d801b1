/-!
Canonical decompositions, the pairs that compose, and the combining classes. Decompositions and pairs
are entries of hexadecimal code points, the first of them as the distance from the entry before;
classes are ranges as in the table of categories.
-/
namespace Gleaner.Text

def decompositionText : String :=
"c0.41.300 1.41.301 1.41.302 1.41.303 1.41.308 1.41.30a 2.43.327 1.45.300 1.45.301 1.45.302
1.45.308 1.49.300 1.49.301 1.49.302 1.49.308 2.4e.303 1.4f.300 1.4f.301 1.4f.302 1.4f.303 1.4f.308
3.55.300 1.55.301 1.55.302 1.55.308 1.59.301 3.61.300 1.61.301 1.61.302 1.61.303 1.61.308 1.61.30a
2.63.327 1.65.300 1.65.301 1.65.302 1.65.308 1.69.300 1.69.301 1.69.302 1.69.308 2.6e.303 1.6f.300
1.6f.301 1.6f.302 1.6f.303 1.6f.308 3.75.300 1.75.301 1.75.302 1.75.308 1.79.301 2.79.308 1.41.304
1.61.304 1.41.306 1.61.306 1.41.328 1.61.328 1.43.301 1.63.301 1.43.302 1.63.302 1.43.307 1.63.307
1.43.30c 1.63.30c 1.44.30c 1.64.30c 3.45.304 1.65.304 1.45.306 1.65.306 1.45.307 1.65.307 1.45.328
1.65.328 1.45.30c 1.65.30c 1.47.302 1.67.302 1.47.306 1.67.306 1.47.307 1.67.307 1.47.327 1.67.327
1.48.302 1.68.302 3.49.303 1.69.303 1.49.304 1.69.304 1.49.306 1.69.306 1.49.328 1.69.328 1.49.307
4.4a.302 1.6a.302 1.4b.327 1.6b.327 2.4c.301 1.6c.301 1.4c.327 1.6c.327 1.4c.30c 1.6c.30c 5.4e.301
1.6e.301 1.4e.327 1.6e.327 1.4e.30c 1.6e.30c 4.4f.304 1.6f.304 1.4f.306 1.6f.306 1.4f.30b 1.6f.30b
3.52.301 1.72.301 1.52.327 1.72.327 1.52.30c 1.72.30c 1.53.301 1.73.301 1.53.302 1.73.302 1.53.327
1.73.327 1.53.30c 1.73.30c 1.54.327 1.74.327 1.54.30c 1.74.30c 3.55.303 1.75.303 1.55.304 1.75.304
1.55.306 1.75.306 1.55.30a 1.75.30a 1.55.30b 1.75.30b 1.55.328 1.75.328 1.57.302 1.77.302 1.59.302
1.79.302 1.59.308 1.5a.301 1.7a.301 1.5a.307 1.7a.307 1.5a.30c 1.7a.30c 22.4f.31b 1.6f.31b
e.55.31b 1.75.31b 1d.41.30c 1.61.30c 1.49.30c 1.69.30c 1.4f.30c 1.6f.30c 1.55.30c 1.75.30c
1.55.308.304 1.75.308.304 1.55.308.301 1.75.308.301 1.55.308.30c 1.75.308.30c 1.55.308.300
1.75.308.300 2.41.308.304 1.61.308.304 1.41.307.304 1.61.307.304 1.c6.304 1.e6.304 3.47.30c
1.67.30c 1.4b.30c 1.6b.30c 1.4f.328 1.6f.328 1.4f.328.304 1.6f.328.304 1.1b7.30c 1.292.30c
1.6a.30c 4.47.301 1.67.301 3.4e.300 1.6e.300 1.41.30a.301 1.61.30a.301 1.c6.301 1.e6.301 1.d8.301
1.f8.301 1.41.30f 1.61.30f 1.41.311 1.61.311 1.45.30f 1.65.30f 1.45.311 1.65.311 1.49.30f 1.69.30f
1.49.311 1.69.311 1.4f.30f 1.6f.30f 1.4f.311 1.6f.311 1.52.30f 1.72.30f 1.52.311 1.72.311 1.55.30f
1.75.30f 1.55.311 1.75.311 1.53.326 1.73.326 1.54.326 1.74.326 3.48.30c 1.68.30c 7.41.307 1.61.307
1.45.327 1.65.327 1.4f.308.304 1.6f.308.304 1.4f.303.304 1.6f.303.304 1.4f.307 1.6f.307
1.4f.307.304 1.6f.307.304 1.59.304 1.79.304 10d.300 1.301 2.313 1.308.301 30.2b9 a.3b 7.a8.301
1.391.301 1.b7 1.395.301 1.397.301 1.399.301 2.39f.301 2.3a5.301 1.3a9.301 1.3b9.308.301
1a.399.308 1.3a5.308 1.3b1.301 1.3b5.301 1.3b7.301 1.3b9.301 1.3c5.308.301 1a.3b9.308 1.3c5.308
1.3bf.301 1.3c5.301 1.3c9.301 5.3d2.301 1.3d2.308 2c.415.300 1.415.308 2.413.301 4.406.308
5.41a.301 1.418.300 1.423.306 b.418.306 20.438.306 17.435.300 1.435.308 2.433.301 4.456.308
5.43a.301 1.438.300 1.443.306 18.474.30f 1.475.30f 4a.416.306 1.436.306 e.410.306 1.430.306
1.410.308 1.430.308 3.415.306 1.435.306 3.4d8.308 1.4d9.308 1.416.308 1.436.308 1.417.308
1.437.308 3.418.304 1.438.304 1.418.308 1.438.308 1.41e.308 1.43e.308 3.4e8.308 1.4e9.308
1.42d.308 1.44d.308 1.423.304 1.443.304 1.423.308 1.443.308 1.423.30b 1.443.30b 1.427.308
1.447.308 3.42b.308 1.44b.308 129.627.653 1.627.654 1.648.654 1.627.655 1.64a.654 9a.6d5.654
2.6c1.654 11.6d2.654 256.928.93c 8.930.93c 3.933.93c 24.915.93c 1.916.93c 1.917.93c 1.91c.93c
1.921.93c 1.922.93c 1.92b.93c 1.92f.93c 6c.9c7.9be 1.9c7.9d7 10.9a1.9bc 1.9a2.9bc 2.9af.9bc
54.a32.a3c 3.a38.a3c 23.a16.a3c 1.a17.a3c 1.a1c.a3c 3.a2b.a3c ea.b47.b56 3.b47.b3e 1.b47.b57
10.b21.b3c 1.b22.b3c 37.b92.bd7 36.bc6.bbe 1.bc7.bbe 1.bc6.bd7 7c.c46.c56 78.cbf.cd5 7.cc6.cd5
1.cc6.cd6 2.cc6.cc2 1.cc6.cc2.cd5 7f.d46.d3e 1.d47.d3e 1.d46.d57 8e.dd9.dca 2.dd9.dcf
1.dd9.dcf.dca 1.dd9.ddf 165.f42.fb7 a.f4c.fb7 5.f51.fb7 5.f56.fb7 5.f5b.fb7 d.f40.fb5 a.f71.f72
2.f71.f74 1.fb2.f80 2.fb3.f80 9.f71.f80 12.f92.fb7 a.f9c.fb7 5.fa1.fb7 5.fa6.fb7 5.fab.fb7
d.f90.fb5 6d.1025.102e ae0.1b05.1b35 2.1b07.1b35 2.1b09.1b35 2.1b0b.1b35 2.1b0d.1b35 4.1b11.1b35
29.1b3a.1b35 2.1b3c.1b35 3.1b3e.1b35 1.1b3f.1b35 2.1b42.1b35 2bd.41.325 1.61.325 1.42.307 1.62.307
1.42.323 1.62.323 1.42.331 1.62.331 1.43.327.301 1.63.327.301 1.44.307 1.64.307 1.44.323 1.64.323
1.44.331 1.64.331 1.44.327 1.64.327 1.44.32d 1.64.32d 1.45.304.300 1.65.304.300 1.45.304.301
1.65.304.301 1.45.32d 1.65.32d 1.45.330 1.65.330 1.45.327.306 1.65.327.306 1.46.307 1.66.307
1.47.304 1.67.304 1.48.307 1.68.307 1.48.323 1.68.323 1.48.308 1.68.308 1.48.327 1.68.327 1.48.32e
1.68.32e 1.49.330 1.69.330 1.49.308.301 1.69.308.301 1.4b.301 1.6b.301 1.4b.323 1.6b.323 1.4b.331
1.6b.331 1.4c.323 1.6c.323 1.4c.323.304 1.6c.323.304 1.4c.331 1.6c.331 1.4c.32d 1.6c.32d 1.4d.301
1.6d.301 1.4d.307 1.6d.307 1.4d.323 1.6d.323 1.4e.307 1.6e.307 1.4e.323 1.6e.323 1.4e.331 1.6e.331
1.4e.32d 1.6e.32d 1.4f.303.301 1.6f.303.301 1.4f.303.308 1.6f.303.308 1.4f.304.300 1.6f.304.300
1.4f.304.301 1.6f.304.301 1.50.301 1.70.301 1.50.307 1.70.307 1.52.307 1.72.307 1.52.323 1.72.323
1.52.323.304 1.72.323.304 1.52.331 1.72.331 1.53.307 1.73.307 1.53.323 1.73.323 1.53.301.307
1.73.301.307 1.53.30c.307 1.73.30c.307 1.53.323.307 1.73.323.307 1.54.307 1.74.307 1.54.323
1.74.323 1.54.331 1.74.331 1.54.32d 1.74.32d 1.55.324 1.75.324 1.55.330 1.75.330 1.55.32d 1.75.32d
1.55.303.301 1.75.303.301 1.55.304.308 1.75.304.308 1.56.303 1.76.303 1.56.323 1.76.323 1.57.300
1.77.300 1.57.301 1.77.301 1.57.308 1.77.308 1.57.307 1.77.307 1.57.323 1.77.323 1.58.307 1.78.307
1.58.308 1.78.308 1.59.307 1.79.307 1.5a.302 1.7a.302 1.5a.323 1.7a.323 1.5a.331 1.7a.331 1.68.331
1.74.308 1.77.30a 1.79.30a 2.17f.307 5.41.323 1.61.323 1.41.309 1.61.309 1.41.302.301 1.61.302.301
1.41.302.300 1.61.302.300 1.41.302.309 1.61.302.309 1.41.302.303 1.61.302.303 1.41.323.302
1.61.323.302 1.41.306.301 1.61.306.301 1.41.306.300 1.61.306.300 1.41.306.309 1.61.306.309
1.41.306.303 1.61.306.303 1.41.323.306 1.61.323.306 1.45.323 1.65.323 1.45.309 1.65.309 1.45.303
1.65.303 1.45.302.301 1.65.302.301 1.45.302.300 1.65.302.300 1.45.302.309 1.65.302.309
1.45.302.303 1.65.302.303 1.45.323.302 1.65.323.302 1.49.309 1.69.309 1.49.323 1.69.323 1.4f.323
1.6f.323 1.4f.309 1.6f.309 1.4f.302.301 1.6f.302.301 1.4f.302.300 1.6f.302.300 1.4f.302.309
1.6f.302.309 1.4f.302.303 1.6f.302.303 1.4f.323.302 1.6f.323.302 1.4f.31b.301 1.6f.31b.301
1.4f.31b.300 1.6f.31b.300 1.4f.31b.309 1.6f.31b.309 1.4f.31b.303 1.6f.31b.303 1.4f.31b.323
1.6f.31b.323 1.55.323 1.75.323 1.55.309 1.75.309 1.55.31b.301 1.75.31b.301 1.55.31b.300
1.75.31b.300 1.55.31b.309 1.75.31b.309 1.55.31b.303 1.75.31b.303 1.55.31b.323 1.75.31b.323
1.59.300 1.79.300 1.59.323 1.79.323 1.59.309 1.79.309 1.59.303 1.79.303 7.3b1.313 1.3b1.314
1.3b1.313.300 1.3b1.314.300 1.3b1.313.301 1.3b1.314.301 1.3b1.313.342 1.3b1.314.342 1.391.313
1.391.314 1.391.313.300 1.391.314.300 1.391.313.301 1.391.314.301 1.391.313.342 1.391.314.342
1.3b5.313 1.3b5.314 1.3b5.313.300 1.3b5.314.300 1.3b5.313.301 1.3b5.314.301 3.395.313 1.395.314
1.395.313.300 1.395.314.300 1.395.313.301 1.395.314.301 3.3b7.313 1.3b7.314 1.3b7.313.300
1.3b7.314.300 1.3b7.313.301 1.3b7.314.301 1.3b7.313.342 1.3b7.314.342 1.397.313 1.397.314
1.397.313.300 1.397.314.300 1.397.313.301 1.397.314.301 1.397.313.342 1.397.314.342 1.3b9.313
1.3b9.314 1.3b9.313.300 1.3b9.314.300 1.3b9.313.301 1.3b9.314.301 1.3b9.313.342 1.3b9.314.342
1.399.313 1.399.314 1.399.313.300 1.399.314.300 1.399.313.301 1.399.314.301 1.399.313.342
1.399.314.342 1.3bf.313 1.3bf.314 1.3bf.313.300 1.3bf.314.300 1.3bf.313.301 1.3bf.314.301
3.39f.313 1.39f.314 1.39f.313.300 1.39f.314.300 1.39f.313.301 1.39f.314.301 3.3c5.313 1.3c5.314
1.3c5.313.300 1.3c5.314.300 1.3c5.313.301 1.3c5.314.301 1.3c5.313.342 1.3c5.314.342 2.3a5.314
2.3a5.314.300 2.3a5.314.301 2.3a5.314.342 1.3c9.313 1.3c9.314 1.3c9.313.300 1.3c9.314.300
1.3c9.313.301 1.3c9.314.301 1.3c9.313.342 1.3c9.314.342 1.3a9.313 1.3a9.314 1.3a9.313.300
1.3a9.314.300 1.3a9.313.301 1.3a9.314.301 1.3a9.313.342 1.3a9.314.342 1.3b1.300 1.3b1.301
1.3b5.300 1.3b5.301 1.3b7.300 1.3b7.301 1.3b9.300 1.3b9.301 1.3bf.300 1.3bf.301 1.3c5.300
1.3c5.301 1.3c9.300 1.3c9.301 3.3b1.313.345 1.3b1.314.345 1.3b1.313.300.345 1.3b1.314.300.345
1.3b1.313.301.345 1.3b1.314.301.345 1.3b1.313.342.345 1.3b1.314.342.345 1.391.313.345
1.391.314.345 1.391.313.300.345 1.391.314.300.345 1.391.313.301.345 1.391.314.301.345
1.391.313.342.345 1.391.314.342.345 1.3b7.313.345 1.3b7.314.345 1.3b7.313.300.345
1.3b7.314.300.345 1.3b7.313.301.345 1.3b7.314.301.345 1.3b7.313.342.345 1.3b7.314.342.345
1.397.313.345 1.397.314.345 1.397.313.300.345 1.397.314.300.345 1.397.313.301.345
1.397.314.301.345 1.397.313.342.345 1.397.314.342.345 1.3c9.313.345 1.3c9.314.345
1.3c9.313.300.345 1.3c9.314.300.345 1.3c9.313.301.345 1.3c9.314.301.345 1.3c9.313.342.345
1.3c9.314.342.345 1.3a9.313.345 1.3a9.314.345 1.3a9.313.300.345 1.3a9.314.300.345
1.3a9.313.301.345 1.3a9.314.301.345 1.3a9.313.342.345 1.3a9.314.342.345 1.3b1.306 1.3b1.304
1.3b1.300.345 1.3b1.345 1.3b1.301.345 2.3b1.342 1.3b1.342.345 1.391.306 1.391.304 1.391.300
1.391.301 1.391.345 2.3b9 3.a8.342 1.3b7.300.345 1.3b7.345 1.3b7.301.345 2.3b7.342 1.3b7.342.345
1.395.300 1.395.301 1.397.300 1.397.301 1.397.345 1.1fbf.300 1.1fbf.301 1.1fbf.342 1.3b9.306
1.3b9.304 1.3b9.308.300 1.3b9.308.301 3.3b9.342 1.3b9.308.342 1.399.306 1.399.304 1.399.300
1.399.301 2.1ffe.300 1.1ffe.301 1.1ffe.342 1.3c5.306 1.3c5.304 1.3c5.308.300 1.3c5.308.301
1.3c1.313 1.3c1.314 1.3c5.342 1.3c5.308.342 1.3a5.306 1.3a5.304 1.3a5.300 1.3a5.301 1.3a1.314
1.a8.300 1.a8.301 1.60 3.3c9.300.345 1.3c9.345 1.3c9.301.345 2.3c9.342 1.3c9.342.345 1.39f.300
1.39f.301 1.3a9.300 1.3a9.301 1.3a9.345 1.b4 3.2002 1.2003 125.3a9 4.4b 1.41.30a 6f.2190.338
1.2192.338 13.2194.338 1f.21d0.338 1.21d4.338 1.21d2.338 35.2203.338 5.2208.338 3.220b.338
18.2223.338 2.2225.338 1b.223c.338 3.2243.338 3.2245.338 2.2248.338 17.3d.338 2.2261.338
b.224d.338 1.3c.338 1.3e.338 1.2264.338 1.2265.338 3.2272.338 1.2273.338 3.2276.338 1.2277.338
7.227a.338 1.227b.338 3.2282.338 1.2283.338 3.2286.338 1.2287.338 23.22a2.338 1.22a8.338
1.22a9.338 1.22ab.338 31.227c.338 1.227d.338 1.2291.338 1.2292.338 7.22b2.338 1.22b3.338
1.22b4.338 1.22b5.338 3c.3008 1.3009 7b2.2add.338 570.304b.3099 2.304d.3099 2.304f.3099
2.3051.3099 2.3053.3099 2.3055.3099 2.3057.3099 2.3059.3099 2.305b.3099 2.305d.3099 2.305f.3099
2.3061.3099 3.3064.3099 2.3066.3099 2.3068.3099 7.306f.3099 1.306f.309a 2.3072.3099 1.3072.309a
2.3075.3099 1.3075.309a 2.3078.3099 1.3078.309a 2.307b.3099 1.307b.309a 17.3046.3099 a.309d.3099
e.30ab.3099 2.30ad.3099 2.30af.3099 2.30b1.3099 2.30b3.3099 2.30b5.3099 2.30b7.3099 2.30b9.3099
2.30bb.3099 2.30bd.3099 2.30bf.3099 2.30c1.3099 3.30c4.3099 2.30c6.3099 2.30c8.3099 7.30cf.3099
1.30cf.309a 2.30d2.3099 1.30d2.309a 2.30d5.3099 1.30d5.309a 2.30d8.3099 1.30d8.309a 2.30db.3099
1.30db.309a 17.30a6.3099 3.30ef.3099 1.30f0.3099 1.30f1.3099 1.30f2.3099 4.30fd.3099 c802.8c48
1.66f4 1.8eca 1.8cc8 1.6ed1 1.4e32 1.53e5 1.9f9c 1.9f9c 1.5951 1.91d1 1.5587 1.5948 1.61f6 1.7669
1.7f85 1.863f 1.87ba 1.88f8 1.908f 1.6a02 1.6d1b 1.70d9 1.73de 1.843d 1.916a 1.99f1 1.4e82 1.5375
1.6b04 1.721b 1.862d 1.9e1e 1.5d50 1.6feb 1.85cd 1.8964 1.62c9 1.81d8 1.881f 1.5eca 1.6717 1.6d6a
1.72fc 1.90ce 1.4f86 1.51b7 1.52de 1.64c4 1.6ad3 1.7210 1.76e7 1.8001 1.8606 1.865c 1.8def 1.9732
1.9b6f 1.9dfa 1.788c 1.797f 1.7da0 1.83c9 1.9304 1.9e7f 1.8ad6 1.58df 1.5f04 1.7c60 1.807e 1.7262
1.78ca 1.8cc2 1.96f7 1.58d8 1.5c62 1.6a13 1.6dda 1.6f0f 1.7d2f 1.7e37 1.964b 1.52d2 1.808b 1.51dc
1.51cc 1.7a1c 1.7dbe 1.83f1 1.9675 1.8b80 1.62cf 1.6a02 1.8afe 1.4e39 1.5be7 1.6012 1.7387 1.7570
1.5317 1.78fb 1.4fbf 1.5fa9 1.4e0d 1.6ccc 1.6578 1.7d22 1.53c3 1.585e 1.7701 1.8449 1.8aaa 1.6bba
1.8fb0 1.6c88 1.62fe 1.82e5 1.63a0 1.7565 1.4eae 1.5169 1.51c9 1.6881 1.7ce7 1.826f 1.8ad2 1.91cf
1.52f5 1.5442 1.5973 1.5eec 1.65c5 1.6ffe 1.792a 1.95ad 1.9a6a 1.9e97 1.9ece 1.529b 1.66c6 1.6b77
1.8f62 1.5e74 1.6190 1.6200 1.649a 1.6f23 1.7149 1.7489 1.79ca 1.7df4 1.806f 1.8f26 1.84ee 1.9023
1.934a 1.5217 1.52a3 1.54bd 1.70c8 1.88c2 1.8aaa 1.5ec9 1.5ff5 1.637b 1.6bae 1.7c3e 1.7375 1.4ee4
1.56f9 1.5be7 1.5dba 1.601c 1.73b2 1.7469 1.7f9a 1.8046 1.9234 1.96f6 1.9748 1.9818 1.4f8b 1.79ae
1.91b4 1.96b8 1.60e1 1.4e86 1.50da 1.5bee 1.5c3f 1.6599 1.6a02 1.71ce 1.7642 1.84fc 1.907c 1.9f8d
1.6688 1.962e 1.5289 1.677b 1.67f3 1.6d41 1.6e9c 1.7409 1.7559 1.786b 1.7d10 1.985e 1.516d 1.622e
1.9678 1.502b 1.5d19 1.6dea 1.8f2a 1.5f8b 1.6144 1.6817 1.7387 1.9686 1.5229 1.540f 1.5c65 1.6613
1.674e 1.68a8 1.6ce5 1.7406 1.75e2 1.7f79 1.88cf 1.88e1 1.91cc 1.96e2 1.533f 1.6eba 1.541d 1.71d0
1.7498 1.85fa 1.96a3 1.9c57 1.9e9f 1.6797 1.6dcb 1.81e8 1.7acb 1.7b20 1.7c92 1.72c0 1.7099 1.8b58
1.4ec0 1.8336 1.523a 1.5207 1.5ea6 1.62d3 1.7cd6 1.5b85 1.6d1e 1.66b4 1.8f3b 1.884c 1.964d 1.898b
1.5ed3 1.5140 1.55c0 3.585a 2.6674 3.51de 1.732a 1.76ca 1.793c 1.795e 1.7965 1.798f 1.9756 1.7cbe
1.7fbd 2.8612 2.8af8 3.9038 1.90fd 4.98ef 1.98fc 1.9928 1.9db4 1.90de 1.96b7 1.4fae 1.50e7 1.514d
1.52c9 1.52e4 1.5351 1.559d 1.5606 1.5668 1.5840 1.58a8 1.5c64 1.5c6e 1.6094 1.6168 1.618e 1.61f2
1.654f 1.65e2 1.6691 1.6885 1.6d77 1.6e1a 1.6f22 1.716e 1.722b 1.7422 1.7891 1.793e 1.7949 1.7948
1.7950 1.7956 1.795d 1.798d 1.798e 1.7a40 1.7a81 1.7bc0 1.7df4 1.7e09 1.7e41 1.7f72 1.8005 1.81ed
1.8279 1.8279 1.8457 1.8910 1.8996 1.8b01 1.8b39 1.8cd3 1.8d08 1.8fb6 1.9038 1.96e3 1.97ff 1.983b
1.6075 1.242ee 1.8218 3.4e26 1.51b5 1.5168 1.4f80 1.5145 1.5180 1.52c7 1.52fa 1.559d 1.5555 1.5599
1.55e2 1.585a 1.58b3 1.5944 1.5954 1.5a62 1.5b28 1.5ed2 1.5ed9 1.5f69 1.5fad 1.60d8 1.614e 1.6108
1.618e 1.6160 1.61f2 1.6234 1.63c4 1.641c 1.6452 1.6556 1.6674 1.6717 1.671b 1.6756 1.6b79 1.6bba
1.6d41 1.6edb 1.6ecb 1.6f22 1.701e 1.716e 1.77a7 1.7235 1.72af 1.732a 1.7471 1.7506 1.753b 1.761d
1.761f 1.76ca 1.76db 1.76f4 1.774a 1.7740 1.78cc 1.7ab1 1.7bc0 1.7c7b 1.7d5b 1.7df4 1.7f3e 1.8005
1.8352 1.83ef 1.8779 1.8941 1.8986 1.8996 1.8abf 1.8af8 1.8acb 1.8b01 1.8afe 1.8aed 1.8b39 1.8b8a
1.8d08 1.8f38 1.9072 1.9199 1.9276 1.967c 1.96e3 1.9756 1.97db 1.97ff 1.980b 1.983b 1.9b12 1.9f9c
1.2284a 1.22844 1.233d5 1.3b9d 1.4018 1.4039 1.25249 1.25cd0 1.27ed3 1.9f43 1.9f8e 44.5d9.5b4
2.5f2.5b7 b.5e9.5c1 1.5e9.5c2 1.5e9.5bc.5c1 1.5e9.5bc.5c2 1.5d0.5b7 1.5d0.5b8 1.5d0.5bc 1.5d1.5bc
1.5d2.5bc 1.5d3.5bc 1.5d4.5bc 1.5d5.5bc 1.5d6.5bc 2.5d8.5bc 1.5d9.5bc 1.5da.5bc 1.5db.5bc
1.5dc.5bc 2.5de.5bc 2.5e0.5bc 1.5e1.5bc 2.5e3.5bc 1.5e4.5bc 2.5e6.5bc 1.5e7.5bc 1.5e8.5bc
1.5e9.5bc 1.5ea.5bc 1.5d5.5b9 1.5d1.5bf 1.5db.5bf 1.5e4.5bf 154c.11099.110ba 2.1109b.110ba
f.110a5.110ba 83.11131.11127 1.11132.11127 21c.11347.1133e 1.11347.11357 16f.114b9.114ba
1.114b9.114b0 2.114b9.114bd fc.115b8.115af 1.115b9.115af 37d.11935.11930 b826.1d157.1d165
1.1d158.1d165 1.1d158.1d165.1d16e 1.1d158.1d165.1d16f 1.1d158.1d165.1d170 1.1d158.1d165.1d171
1.1d158.1d165.1d172 57.1d1b9.1d165 1.1d1ba.1d165 1.1d1b9.1d165.1d16e 1.1d1ba.1d165.1d16e
1.1d1b9.1d165.1d16f 1.1d1ba.1d165.1d16f 12640.4e3d 1.4e38 1.4e41 1.20122 1.4f60 1.4fae 1.4fbb
1.5002 1.507a 1.5099 1.50e7 1.50cf 1.349e 1.2063a 1.514d 1.5154 1.5164 1.5177 1.2051c 1.34b9
1.5167 1.518d 1.2054b 1.5197 1.51a4 1.4ecc 1.51ac 1.51b5 1.291df 1.51f5 1.5203 1.34df 1.523b
1.5246 1.5272 1.5277 1.3515 1.52c7 1.52c9 1.52e4 1.52fa 1.5305 1.5306 1.5317 1.5349 1.5351 1.535a
1.5373 1.537d 1.537f 1.537f 1.537f 1.20a2c 1.7070 1.53ca 1.53df 1.20b63 1.53eb 1.53f1 1.5406
1.549e 1.5438 1.5448 1.5468 1.54a2 1.54f6 1.5510 1.5553 1.5563 1.5584 1.5584 1.5599 1.55ab 1.55b3
1.55c2 1.5716 1.5606 1.5717 1.5651 1.5674 1.5207 1.58ee 1.57ce 1.57f4 1.580d 1.578b 1.5832 1.5831
1.58ac 1.214e4 1.58f2 1.58f7 1.5906 1.591a 1.5922 1.5962 1.216a8 1.216ea 1.59ec 1.5a1b 1.5a27
1.59d8 1.5a66 1.36ee 1.36fc 1.5b08 1.5b3e 1.5b3e 1.219c8 1.5bc3 1.5bd8 1.5be7 1.5bf3 1.21b18
1.5bff 1.5c06 1.5f53 1.5c22 1.3781 1.5c60 1.5c6e 1.5cc0 1.5c8d 1.21de4 1.5d43 1.21de6 1.5d6e
1.5d6b 1.5d7c 1.5de1 1.5de2 1.382f 1.5dfd 1.5e28 1.5e3d 1.5e69 1.3862 1.22183 1.387c 1.5eb0 1.5eb3
1.5eb6 1.5eca 1.2a392 1.5efe 1.22331 1.22331 1.8201 1.5f22 1.5f22 1.38c7 1.232b8 1.261da 1.5f62
1.5f6b 1.38e3 1.5f9a 1.5fcd 1.5fd7 1.5ff9 1.6081 1.393a 1.391c 1.6094 1.226d4 1.60c7 1.6148 1.614c
1.614e 1.614c 1.617a 1.618e 1.61b2 1.61a4 1.61af 1.61de 1.61f2 1.61f6 1.6210 1.621b 1.625d 1.62b1
1.62d4 1.6350 1.22b0c 1.633d 1.62fc 1.6368 1.6383 1.63e4 1.22bf1 1.6422 1.63c5 1.63a9 1.3a2e
1.6469 1.647e 1.649d 1.6477 1.3a6c 1.654f 1.656c 1.2300a 1.65e3 1.66f8 1.6649 1.3b19 1.6691 1.3b08
1.3ae4 1.5192 1.5195 1.6700 1.669c 1.80ad 1.43d9 1.6717 1.671b 1.6721 1.675e 1.6753 1.233c3 1.3b49
1.67fa 1.6785 1.6852 1.6885 1.2346d 1.688e 1.681f 1.6914 1.3b9d 1.6942 1.69a3 1.69ea 1.6aa8
1.236a3 1.6adb 1.3c18 1.6b21 1.238a7 1.6b54 1.3c4e 1.6b72 1.6b9f 1.6bba 1.6bbb 1.23a8d 1.21d0b
1.23afa 1.6c4e 1.23cbc 1.6cbf 1.6ccd 1.6c67 1.6d16 1.6d3e 1.6d77 1.6d41 1.6d69 1.6d78 1.6d85
1.23d1e 1.6d34 1.6e2f 1.6e6e 1.3d33 1.6ecb 1.6ec7 1.23ed1 1.6df9 1.6f6e 1.23f5e 1.23f8e 1.6fc6
1.7039 1.701e 1.701b 1.3d96 1.704a 1.707d 1.7077 1.70ad 1.20525 1.7145 1.24263 1.719c 1.243ab
1.7228 1.7235 1.7250 1.24608 1.7280 1.7295 1.24735 1.24814 1.737a 1.738b 1.3eac 1.73a5 1.3eb8
1.3eb8 1.7447 1.745c 1.7471 1.7485 1.74ca 1.3f1b 1.7524 1.24c36 1.753e 1.24c92 1.7570 1.2219f
1.7610 1.24fa1 1.24fb8 1.25044 1.3ffc 1.4008 1.76f4 1.250f3 1.250f2 1.25119 1.25133 1.771e 1.771f
1.771f 1.774a 1.4039 1.778b 1.4046 1.4096 1.2541d 1.784e 1.788c 1.78cc 1.40e3 1.25626 1.7956
1.2569a 1.256c5 1.798f 1.79eb 1.412f 1.7a40 1.7a4a 1.7a4f 1.2597c 1.25aa7 1.25aa7 1.7aee 1.4202
1.25bab 1.7bc6 1.7bc9 1.4227 1.25c80 1.7cd2 1.42a0 1.7ce8 1.7ce3 1.7d00 1.25f86 1.7d63 1.4301
1.7dc7 1.7e02 1.7e45 1.4334 1.26228 1.26247 1.4359 1.262d9 1.7f7a 1.2633e 1.7f95 1.7ffa 1.8005
1.264da 1.26523 1.8060 1.265a8 1.8070 1.2335f 1.43d5 1.80b2 1.8103 1.440b 1.813e 1.5ab5 1.267a7
1.267b5 1.23393 1.2339c 1.8201 1.8204 1.8f9e 1.446b 1.8291 1.828b 1.829d 1.52b3 1.82b1 1.82b3
1.82bd 1.82e6 1.26b3c 1.82e5 1.831d 1.8363 1.83ad 1.8323 1.83bd 1.83e7 1.8457 1.8353 1.83ca 1.83cc
1.83dc 1.26c36 1.26d6b 1.26cd5 1.452b 1.84f1 1.84f3 1.8516 1.273ca 1.8564 1.26f2c 1.455d 1.4561
1.26fb1 1.270d2 1.456b 1.8650 1.865c 1.8667 1.8669 1.86a9 1.8688 1.870e 1.86e2 1.8779 1.8728
1.876b 1.8786 1.45d7 1.87e1 1.8801 1.45f9 1.8860 1.8863 1.27667 1.88d7 1.88de 1.4635 1.88fa 1.34bb
1.278ae 1.27966 1.46be 1.46c7 1.8aa0 1.8aed 1.8b8a 1.8c55 1.27ca8 1.8cab 1.8cc1 1.8d1b 1.8d77
1.27f2f 1.20804 1.8dcb 1.8dbc 1.8df0 1.208de 1.8ed4 1.8f38 1.285d2 1.285ed 1.9094 1.90f1 1.9111
1.2872e 1.911b 1.9238 1.92d7 1.92d8 1.927c 1.93f9 1.9415 1.28bfa 1.958b 1.4995 1.95b7 1.28d77
1.49e6 1.96c3 1.5db2 1.9723 1.29145 1.2921a 1.4a6e 1.4a76 1.97e0 1.2940a 1.4ab2 1.29496 1.980b
1.980b 1.9829 1.295b6 1.98e2 1.4b33 1.9929 1.99a7 1.99c2 1.99fe 1.4bce 1.29b30 1.9b12 1.9c40
1.9cfd 1.4cce 1.4ced 1.9d67 1.2a0ce 1.4cf8 1.2a105 1.2a20e 1.2a291 1.9ebb 1.4d56 1.9ef9 1.9efe
1.9f05 1.9f0f 1.9f16 1.9f3b 1.2a600"

def pairText : String :=
"3c.338.226e 1.338.2260 1.338.226f 3.300.c0 0.301.c1 0.302.c2 0.303.c3 0.304.100 0.306.102
0.307.226 0.308.c4 0.309.1ea2 0.30a.c5 0.30c.1cd 0.30f.200 0.311.202 0.323.1ea0 0.325.1e00
0.328.104 1.307.1e02 0.323.1e04 0.331.1e06 1.301.106 0.302.108 0.307.10a 0.30c.10c 0.327.c7
1.307.1e0a 0.30c.10e 0.323.1e0c 0.327.1e10 0.32d.1e12 0.331.1e0e 1.300.c8 0.301.c9 0.302.ca
0.303.1ebc 0.304.112 0.306.114 0.307.116 0.308.cb 0.309.1eba 0.30c.11a 0.30f.204 0.311.206
0.323.1eb8 0.327.228 0.328.118 0.32d.1e18 0.330.1e1a 1.307.1e1e 1.301.1f4 0.302.11c 0.304.1e20
0.306.11e 0.307.120 0.30c.1e6 0.327.122 1.302.124 0.307.1e22 0.308.1e26 0.30c.21e 0.323.1e24
0.327.1e28 0.32e.1e2a 1.300.cc 0.301.cd 0.302.ce 0.303.128 0.304.12a 0.306.12c 0.307.130 0.308.cf
0.309.1ec8 0.30c.1cf 0.30f.208 0.311.20a 0.323.1eca 0.328.12e 0.330.1e2c 1.302.134 1.301.1e30
0.30c.1e8 0.323.1e32 0.327.136 0.331.1e34 1.301.139 0.30c.13d 0.323.1e36 0.327.13b 0.32d.1e3c
0.331.1e3a 1.301.1e3e 0.307.1e40 0.323.1e42 1.300.1f8 0.301.143 0.303.d1 0.307.1e44 0.30c.147
0.323.1e46 0.327.145 0.32d.1e4a 0.331.1e48 1.300.d2 0.301.d3 0.302.d4 0.303.d5 0.304.14c 0.306.14e
0.307.22e 0.308.d6 0.309.1ece 0.30b.150 0.30c.1d1 0.30f.20c 0.311.20e 0.31b.1a0 0.323.1ecc
0.328.1ea 1.301.1e54 0.307.1e56 2.301.154 0.307.1e58 0.30c.158 0.30f.210 0.311.212 0.323.1e5a
0.327.156 0.331.1e5e 1.301.15a 0.302.15c 0.307.1e60 0.30c.160 0.323.1e62 0.326.218 0.327.15e
1.307.1e6a 0.30c.164 0.323.1e6c 0.326.21a 0.327.162 0.32d.1e70 0.331.1e6e 1.300.d9 0.301.da
0.302.db 0.303.168 0.304.16a 0.306.16c 0.308.dc 0.309.1ee6 0.30a.16e 0.30b.170 0.30c.1d3 0.30f.214
0.311.216 0.31b.1af 0.323.1ee4 0.324.1e72 0.328.172 0.32d.1e76 0.330.1e74 1.303.1e7c 0.323.1e7e
1.300.1e80 0.301.1e82 0.302.174 0.307.1e86 0.308.1e84 0.323.1e88 1.307.1e8a 0.308.1e8c 1.300.1ef2
0.301.dd 0.302.176 0.303.1ef8 0.304.232 0.307.1e8e 0.308.178 0.309.1ef6 0.323.1ef4 1.301.179
0.302.1e90 0.307.17b 0.30c.17d 0.323.1e92 0.331.1e94 7.300.e0 0.301.e1 0.302.e2 0.303.e3 0.304.101
0.306.103 0.307.227 0.308.e4 0.309.1ea3 0.30a.e5 0.30c.1ce 0.30f.201 0.311.203 0.323.1ea1
0.325.1e01 0.328.105 1.307.1e03 0.323.1e05 0.331.1e07 1.301.107 0.302.109 0.307.10b 0.30c.10d
0.327.e7 1.307.1e0b 0.30c.10f 0.323.1e0d 0.327.1e11 0.32d.1e13 0.331.1e0f 1.300.e8 0.301.e9
0.302.ea 0.303.1ebd 0.304.113 0.306.115 0.307.117 0.308.eb 0.309.1ebb 0.30c.11b 0.30f.205
0.311.207 0.323.1eb9 0.327.229 0.328.119 0.32d.1e19 0.330.1e1b 1.307.1e1f 1.301.1f5 0.302.11d
0.304.1e21 0.306.11f 0.307.121 0.30c.1e7 0.327.123 1.302.125 0.307.1e23 0.308.1e27 0.30c.21f
0.323.1e25 0.327.1e29 0.32e.1e2b 0.331.1e96 1.300.ec 0.301.ed 0.302.ee 0.303.129 0.304.12b
0.306.12d 0.308.ef 0.309.1ec9 0.30c.1d0 0.30f.209 0.311.20b 0.323.1ecb 0.328.12f 0.330.1e2d
1.302.135 0.30c.1f0 1.301.1e31 0.30c.1e9 0.323.1e33 0.327.137 0.331.1e35 1.301.13a 0.30c.13e
0.323.1e37 0.327.13c 0.32d.1e3d 0.331.1e3b 1.301.1e3f 0.307.1e41 0.323.1e43 1.300.1f9 0.301.144
0.303.f1 0.307.1e45 0.30c.148 0.323.1e47 0.327.146 0.32d.1e4b 0.331.1e49 1.300.f2 0.301.f3
0.302.f4 0.303.f5 0.304.14d 0.306.14f 0.307.22f 0.308.f6 0.309.1ecf 0.30b.151 0.30c.1d2 0.30f.20d
0.311.20f 0.31b.1a1 0.323.1ecd 0.328.1eb 1.301.1e55 0.307.1e57 2.301.155 0.307.1e59 0.30c.159
0.30f.211 0.311.213 0.323.1e5b 0.327.157 0.331.1e5f 1.301.15b 0.302.15d 0.307.1e61 0.30c.161
0.323.1e63 0.326.219 0.327.15f 1.307.1e6b 0.308.1e97 0.30c.165 0.323.1e6d 0.326.21b 0.327.163
0.32d.1e71 0.331.1e6f 1.300.f9 0.301.fa 0.302.fb 0.303.169 0.304.16b 0.306.16d 0.308.fc 0.309.1ee7
0.30a.16f 0.30b.171 0.30c.1d4 0.30f.215 0.311.217 0.31b.1b0 0.323.1ee5 0.324.1e73 0.328.173
0.32d.1e77 0.330.1e75 1.303.1e7d 0.323.1e7f 1.300.1e81 0.301.1e83 0.302.175 0.307.1e87 0.308.1e85
0.30a.1e98 0.323.1e89 1.307.1e8b 0.308.1e8d 1.300.1ef3 0.301.fd 0.302.177 0.303.1ef9 0.304.233
0.307.1e8f 0.308.ff 0.309.1ef7 0.30a.1e99 0.323.1ef5 1.301.17a 0.302.1e91 0.307.17c 0.30c.17e
0.323.1e93 0.331.1e95 2e.300.1fed 0.301.385 0.342.1fc1 1a.300.1ea6 0.301.1ea4 0.303.1eaa
0.309.1ea8 2.304.1de 1.301.1fa 1.301.1fc 0.304.1e2 1.301.1e08 3.300.1ec0 0.301.1ebe 0.303.1ec4
0.309.1ec2 5.301.1e2e 5.300.1ed2 0.301.1ed0 0.303.1ed6 0.309.1ed4 1.301.1e4c 0.304.22c 0.308.1e4e
1.304.22a 2.301.1fe 4.300.1db 0.301.1d7 0.304.1d5 0.30c.1d9 6.300.1ea7 0.301.1ea5 0.303.1eab
0.309.1ea9 2.304.1df 1.301.1fb 1.301.1fd 0.304.1e3 1.301.1e09 3.300.1ec1 0.301.1ebf 0.303.1ec5
0.309.1ec3 5.301.1e2f 5.300.1ed3 0.301.1ed1 0.303.1ed7 0.309.1ed5 1.301.1e4d 0.304.22d 0.308.1e4f
1.304.22b 2.301.1ff 4.300.1dc 0.301.1d8 0.304.1d6 0.30c.1da 6.300.1eb0 0.301.1eae 0.303.1eb4
0.309.1eb2 1.300.1eb1 0.301.1eaf 0.303.1eb5 0.309.1eb3 f.300.1e14 0.301.1e16 1.300.1e15 0.301.1e17
39.300.1e50 0.301.1e52 1.300.1e51 0.301.1e53 d.307.1e64 1.307.1e65 5.307.1e66 1.307.1e67
7.301.1e78 1.301.1e79 1.308.1e7a 1.308.1e7b 14.307.1e9b 21.300.1edc 0.301.1eda 0.303.1ee0
0.309.1ede 0.323.1ee2 1.300.1edd 0.301.1edb 0.303.1ee1 0.309.1edf 0.323.1ee3 e.300.1eea 0.301.1ee8
0.303.1eee 0.309.1eec 0.323.1ef0 1.300.1eeb 0.301.1ee9 0.303.1eef 0.309.1eed 0.323.1ef1 7.30c.1ee
33.304.1ec 1.304.1ed 3b.304.1e0 1.304.1e1 1.306.1e1c 1.306.1e1d 5.304.230 1.304.231 63.30c.1ef
ff.300.1fba 0.301.386 0.304.1fb9 0.306.1fb8 0.313.1f08 0.314.1f09 0.345.1fbc 4.300.1fc8 0.301.388
0.313.1f18 0.314.1f19 2.300.1fca 0.301.389 0.313.1f28 0.314.1f29 0.345.1fcc 2.300.1fda 0.301.38a
0.304.1fd9 0.306.1fd8 0.308.3aa 0.313.1f38 0.314.1f39 6.300.1ff8 0.301.38c 0.313.1f48 0.314.1f49
2.314.1fec 4.300.1fea 0.301.38e 0.304.1fe9 0.306.1fe8 0.308.3ab 0.314.1f59 4.300.1ffa 0.301.38f
0.313.1f68 0.314.1f69 0.345.1ffc 3.345.1fb4 2.345.1fc4 3.300.1f70 0.301.3ac 0.304.1fb1 0.306.1fb0
0.313.1f00 0.314.1f01 0.342.1fb6 0.345.1fb3 4.300.1f72 0.301.3ad 0.313.1f10 0.314.1f11 2.300.1f74
0.301.3ae 0.313.1f20 0.314.1f21 0.342.1fc6 0.345.1fc3 2.300.1f76 0.301.3af 0.304.1fd1 0.306.1fd0
0.308.3ca 0.313.1f30 0.314.1f31 0.342.1fd6 6.300.1f78 0.301.3cc 0.313.1f40 0.314.1f41 2.313.1fe4
0.314.1fe5 4.300.1f7a 0.301.3cd 0.304.1fe1 0.306.1fe0 0.308.3cb 0.313.1f50 0.314.1f51 0.342.1fe6
4.300.1f7c 0.301.3ce 0.313.1f60 0.314.1f61 0.342.1ff6 0.345.1ff3 1.300.1fd2 0.301.390 0.342.1fd7
1.300.1fe2 0.301.3b0 0.342.1fe7 3.345.1ff4 4.301.3d3 0.308.3d4 34.308.407 a.306.4d0 0.308.4d2
3.301.403 2.300.400 0.306.4d6 0.308.401 1.306.4c1 0.308.4dc 1.308.4de 1.300.40d 0.304.4e2
0.306.419 0.308.4e4 2.301.40c 4.308.4e6 5.304.4ee 0.306.40e 0.308.4f0 0.30b.4f2 4.308.4f4
4.308.4f8 2.308.4ec 3.306.4d1 0.308.4d3 3.301.453 2.300.450 0.306.4d7 0.308.451 1.306.4c2
0.308.4dd 1.308.4df 1.300.45d 0.304.4e3 0.306.439 0.308.4e5 2.301.45c 4.308.4e7 5.304.4ef
0.306.45e 0.308.4f1 0.30b.4f3 4.308.4f5 4.308.4f9 2.308.4ed 9.308.457 1e.30f.476 1.30f.477
63.308.4da 1.308.4db f.308.4ea 1.308.4eb 13e.653.622 0.654.623 0.655.625 21.654.624 2.654.626
77.654.6c2 11.654.6d3 3.654.6c0 253.93c.929 8.93c.931 3.93c.934 94.9be.9cb 0.9d7.9cc 180.b3e.b4b
0.b56.b48 0.b57.b4c 4b.bd7.b94 34.bbe.bca 0.bd7.bcc 1.bbe.bcb 7f.c56.c48 79.cd5.cc0 7.cc2.cca
0.cd5.cc7 0.cd6.cc8 4.cd5.ccb 7c.d3e.d4a 0.d57.d4c 1.d3e.d4b 92.dca.dda 0.dcf.ddc 0.ddf.dde
3.dca.ddd 249.102e.1026 ae0.1b35.1b06 2.1b35.1b08 2.1b35.1b0a 2.1b35.1b0c 2.1b35.1b0e 4.1b35.1b12
29.1b35.1b3b 2.1b35.1b3d 2.1b35.1b40 1.1b35.1b41 3.1b35.1b43 2f4.304.1e38 1.304.1e39 23.304.1e5c
1.304.1e5d 7.307.1e68 1.307.1e69 3d.302.1eac 0.306.1eb6 1.302.1ead 0.306.1eb7 17.302.1ec6
1.302.1ec7 13.302.1ed8 1.302.1ed9 33.300.1f02 0.301.1f04 0.342.1f06 0.345.1f80 1.300.1f03
0.301.1f05 0.342.1f07 0.345.1f81 1.345.1f82 1.345.1f83 1.345.1f84 1.345.1f85 1.345.1f86 1.345.1f87
1.300.1f0a 0.301.1f0c 0.342.1f0e 0.345.1f88 1.300.1f0b 0.301.1f0d 0.342.1f0f 0.345.1f89 1.345.1f8a
1.345.1f8b 1.345.1f8c 1.345.1f8d 1.345.1f8e 1.345.1f8f 1.300.1f12 0.301.1f14 1.300.1f13 0.301.1f15
7.300.1f1a 0.301.1f1c 1.300.1f1b 0.301.1f1d 7.300.1f22 0.301.1f24 0.342.1f26 0.345.1f90 1.300.1f23
0.301.1f25 0.342.1f27 0.345.1f91 1.345.1f92 1.345.1f93 1.345.1f94 1.345.1f95 1.345.1f96 1.345.1f97
1.300.1f2a 0.301.1f2c 0.342.1f2e 0.345.1f98 1.300.1f2b 0.301.1f2d 0.342.1f2f 0.345.1f99 1.345.1f9a
1.345.1f9b 1.345.1f9c 1.345.1f9d 1.345.1f9e 1.345.1f9f 1.300.1f32 0.301.1f34 0.342.1f36 1.300.1f33
0.301.1f35 0.342.1f37 7.300.1f3a 0.301.1f3c 0.342.1f3e 1.300.1f3b 0.301.1f3d 0.342.1f3f 7.300.1f42
0.301.1f44 1.300.1f43 0.301.1f45 7.300.1f4a 0.301.1f4c 1.300.1f4b 0.301.1f4d 7.300.1f52 0.301.1f54
0.342.1f56 1.300.1f53 0.301.1f55 0.342.1f57 8.300.1f5b 0.301.1f5d 0.342.1f5f 7.300.1f62 0.301.1f64
0.342.1f66 0.345.1fa0 1.300.1f63 0.301.1f65 0.342.1f67 0.345.1fa1 1.345.1fa2 1.345.1fa3 1.345.1fa4
1.345.1fa5 1.345.1fa6 1.345.1fa7 1.300.1f6a 0.301.1f6c 0.342.1f6e 0.345.1fa8 1.300.1f6b 0.301.1f6d
0.342.1f6f 0.345.1fa9 1.345.1faa 1.345.1fab 1.345.1fac 1.345.1fad 1.345.1fae 1.345.1faf 1.345.1fb2
4.345.1fc2 8.345.1ff2 3a.345.1fb7 9.300.1fcd 0.301.1fce 0.342.1fcf 7.345.1fc7 30.345.1ff7
8.300.1fdd 0.301.1fde 0.342.1fdf 192.338.219a 2.338.219b 2.338.21ae 3c.338.21cd 2.338.21cf
2.338.21ce 2f.338.2204 5.338.2209 3.338.220c 18.338.2224 2.338.2226 17.338.2241 7.338.2244
2.338.2247 3.338.2249 5.338.226d 14.338.2262 3.338.2270 1.338.2271 d.338.2274 1.338.2275
3.338.2278 1.338.2279 3.338.2280 1.338.2281 1.338.22e0 1.338.22e1 5.338.2284 1.338.2285 3.338.2288
1.338.2289 a.338.22e2 1.338.22e3 10.338.22ac 6.338.22ad 1.338.22ae 2.338.22af 7.338.22ea
1.338.22eb 1.338.22ec 1.338.22ed d91.3099.3094 5.3099.304c 2.3099.304e 2.3099.3050 2.3099.3052
2.3099.3054 2.3099.3056 2.3099.3058 2.3099.305a 2.3099.305c 2.3099.305e 2.3099.3060 2.3099.3062
3.3099.3065 2.3099.3067 2.3099.3069 7.3099.3070 0.309a.3071 3.3099.3073 0.309a.3074 3.3099.3076
0.309a.3077 3.3099.3079 0.309a.307a 3.3099.307c 0.309a.307d 22.3099.309e 9.3099.30f4 5.3099.30ac
2.3099.30ae 2.3099.30b0 2.3099.30b2 2.3099.30b4 2.3099.30b6 2.3099.30b8 2.3099.30ba 2.3099.30bc
2.3099.30be 2.3099.30c0 2.3099.30c2 3.3099.30c5 2.3099.30c7 2.3099.30c9 7.3099.30d0 0.309a.30d1
3.3099.30d3 0.309a.30d4 3.3099.30d6 0.309a.30d7 3.3099.30d9 0.309a.30da 3.3099.30dc 0.309a.30dd
14.3099.30f7 1.3099.30f8 1.3099.30f9 1.3099.30fa b.3099.30fe df9c.110ba.1109a 2.110ba.1109c
a.110ba.110ab 8c.11127.1112e 1.11127.1112f 215.1133e.1134b 0.11357.1134c 172.114b0.114bc
0.114ba.114bb 0.114bd.114be ff.115af.115ba 1.115af.115bb 37c.11930.11938"

def combiningTable : List (Nat × String) := [
  (1, "334-4 199b d-6 3e9-1 4-2 a-1 3-1 e94d 60b6-4 51a9 14c8-2"),
  (6, "16ff0-1"),
  (7, "93c 7f 7f 7f 7f ff 7f 37a afc b1 50 8d7b 6706 b8 56 6b b2 51-1 109 7c fc f6 182 108 3fe cc07"),
  (8, "3099-1"),
  (9, "94d 7f 7f 7f 7f 7f 7f 7f 6d-1 10 7c 6f 7f c9 b4-1 6d9-1 1e 9d 28d e3 65-1 46-1 118b 7a86 25 97 8e
6c 135 f6 5e51 606 29 e 39 79-1 8b 74 b4 62 f4 7f fc 7f 76 74 10d 103-1 a1 53 12 51 1a5 104-1 51"),
  (10, "5b0"),
  (11, "5b1"),
  (12, "5b2"),
  (13, "5b3"),
  (14, "5b4"),
  (15, "5b5"),
  (16, "5b6"),
  (17, "5b7"),
  (18, "5b8 e"),
  (19, "5b9-1"),
  (20, "5bb"),
  (21, "5bc"),
  (22, "5bd"),
  (23, "5bf"),
  (24, "5c1"),
  (25, "5c2"),
  (26, "fb1e"),
  (27, "64b 2a4"),
  (28, "64c 2a4"),
  (29, "64d 2a4"),
  (30, "618 35"),
  (31, "619 35"),
  (32, "61a 35"),
  (33, "651"),
  (34, "652"),
  (35, "670"),
  (36, "711"),
  (84, "c55"),
  (91, "c56"),
  (103, "e38-1"),
  (107, "e48-3"),
  (118, "eb8-1"),
  (122, "ec8-3"),
  (129, "f71"),
  (130, "f72 7-3 2"),
  (132, "f74"),
  (202, "321-1 4-1 1aa7"),
  (214, "1dce"),
  (216, "31b c1d 1c22b-1 7-4"),
  (218, "1dfa 122f"),
  (220, "316-3 2-4 2-3 2-a 5-3 a-2 3-1 4-3 2-1 236 4 4 6-5 2 1a 8f-1 5 2 83 6 2 43 2 2-2 1-1 1 3 1 1 1 a9 a
5b-2 3d-2 33-4 f 2 2 3-2 6 2-1 57 5c5-1 1b 1 8e c6 8ad dc 66 35-5 2 1-1 2-1 5 a1 168-4 2-3 d d4 7
4 29 3 1 2e8 3-3 883b-2 186 5372-6 3cf e2 72c 2c ab 45f-1 3 1-3 32 1 c1f5-7 7-1 1744-6"),
  (222, "59a 12 138b 16f3"),
  (224, "302e-1"),
  (226, "1d16d"),
  (228, "5ae 12fa 54d-1 1232"),
  (230, "300-14 28-7 1 3-2 3-2 4 3 7-c 113-4 10a-3 1-2 2-5 6-1 1-1 2 14 4b-7 3b-1 2-4 1-1 77-6 2-3 1 2-1
2-1 43 1-1 1-1 3 2 1-2 1 1 1 1-1 a0-6 1 22-3 1-8 1-2 1-4 6a 3-3 2a-4 5-d 2-1 1-1 1-2 6-2 1-1 2-4
51 1-1 a9 583-1 2-1 3d5-2 47d 15c dc 5d-7 33-4 6-1 4-1 2-4 1-3 9c 1-6 15c-2 7-1 4 13 3-1 c6-1 1-6
1-1 4-24 5 2 2d1-1 2-3 3-1 4 5 1 6 bfe-2 ee-1f 786f 4-9 20-1 50-1 1ee-11 1be 1-1 3-1 5-1 1 535e-6
7-1 546-4 694 28 ac 23e-3 183-1 9b-2 1 35 1 17b-2 263-6 3-4 e9 56d1-6 664e-4 20-3 94-2 dbb-6 1-10
2-6 1-1 1-4 105-6 177 3d-3 654-5"),
  (232, "315 4 3d 1a9d 1235"),
  (233, "35c 2 2 1a99"),
  (234, "35d-1 1-1 1a6b"),
  (240, "345")]

end Gleaner.Text
